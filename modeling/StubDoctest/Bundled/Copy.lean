/-!
# The bundled module `copy`

Shallow and deep copies of values: containers are copied item by item, instances through their __copy__ and __deepcopy__ methods or by copying their attributes, and a deep copy copies each shared value once.
-/

namespace StubDoctest.Bundled

/-- The source of `copy`. -/
def copy : String := "class Error(Exception):
    pass
error = Error
def _f():
    pass
_atomic = (type(None), int, float, bool, complex, str, bytes, type, range, type(len),
           type(Ellipsis), type(NotImplemented), type(_f), property, slice)
del _f
def _state_of(x):
    cls = type(x)
    getstate = None
    for c in cls.__mro__:
        try:
            d = c.__dict__
        except AttributeError:
            continue
        if '__getstate__' in d:
            getstate = d['__getstate__']
            break
    if getstate is not None:
        return getstate(x)
    try:
        state = dict(vars(x))
    except TypeError:
        state = None
    slots = \x7b\x7d
    for c in cls.__mro__:
        try:
            names = c.__dict__.get('__slots__', ())
        except AttributeError:
            continue
        if isinstance(names, str):
            names = (names,)
        for name in names:
            if name not in ('__dict__', '__weakref__') and hasattr(x, name):
                slots[name] = getattr(x, name)
    if slots:
        return (state, slots)
    return state
def _set_state(y, state, deep, memo):
    if state is None:
        return
    if deep:
        state = deepcopy(state, memo)
    if hasattr(y, '__setstate__') and type(y).__dict__.get('__setstate__', None) is not None:
        y.__setstate__(state)
        return
    slots = None
    if isinstance(state, tuple) and len(state) == 2:
        state, slots = state
    if state:
        for key, value in state.items():
            object.__setattr__(y, key, value)
    if slots:
        for key, value in slots.items():
            object.__setattr__(y, key, value)
def _reconstruct(x, memo, deep):
    cls = type(x)
    y = cls.__new__(cls)
    if deep:
        memo[id(x)] = y
    if isinstance(x, list):
        for item in x:
            y.append(deepcopy(item, memo) if deep else item)
    elif isinstance(x, dict):
        for key, value in x.items():
            if deep:
                y[deepcopy(key, memo)] = deepcopy(value, memo)
            else:
                y[key] = value
    elif isinstance(x, set):
        for item in x:
            y.add(deepcopy(item, memo) if deep else item)
    _set_state(y, _state_of(x), deep, memo)
    return y
def copy(x):
    cls = type(x)
    if cls in _atomic or issubclass(cls, type):
        return x
    if cls in (list, dict, set, bytearray):
        return x.copy()
    if cls in (tuple, frozenset):
        return x
    copier = getattr(cls, '__copy__', None)
    if copier is not None:
        return copier(x)
    return _reconstruct(x, None, False)
def deepcopy(x, memo=None, _nil=[]):
    if memo is None:
        memo = \x7b\x7d
    d = id(x)
    y = memo.get(d, _nil)
    if y is not _nil:
        return y
    cls = type(x)
    if cls in _atomic or issubclass(cls, type):
        y = x
    elif cls is list:
        y = []
        memo[d] = y
        for a in x:
            y.append(deepcopy(a, memo))
    elif cls is tuple:
        items = [deepcopy(a, memo) for a in x]
        if d in memo:
            return memo[d]
        y = x
        for k, j in zip(x, items):
            if k is not j:
                y = tuple(items)
                break
    elif cls is dict:
        y = \x7b\x7d
        memo[d] = y
        for key, value in x.items():
            y[deepcopy(key, memo)] = deepcopy(value, memo)
    elif cls in (set, frozenset):
        y = cls(deepcopy(a, memo) for a in x)
    elif cls is bytearray:
        y = bytearray(x)
    else:
        copier = getattr(x, '__deepcopy__', None)
        if copier is not None:
            y = copier(memo)
        else:
            y = _reconstruct(x, memo, True)
    if y is not x:
        memo[d] = y
    return y
"

end StubDoctest.Bundled
