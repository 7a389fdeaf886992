/-!
# The bundled module `functools`

Functions on functions: folding with `reduce`, fixing arguments with `partial`, caching results, copying a function's name onto a wrapper, and completing orderings.
-/

namespace StubDoctest.Bundled

/-- The source of `functools`. -/
def functools : String := "from collections import namedtuple
WRAPPER_ASSIGNMENTS = ('__module__', '__name__', '__qualname__', '__doc__',
                       '__annotations__')
WRAPPER_UPDATES = ('__dict__',)
def update_wrapper(wrapper, wrapped, assigned=WRAPPER_ASSIGNMENTS, updated=WRAPPER_UPDATES):
    for attr in assigned:
        try:
            value = getattr(wrapped, attr)
        except AttributeError:
            pass
        else:
            setattr(wrapper, attr, value)
    for attr in updated:
        for key, value in getattr(wrapped, attr, \x7b\x7d).items():
            setattr(wrapper, key, value)
    wrapper.__wrapped__ = wrapped
    return wrapper
def wraps(wrapped, assigned=WRAPPER_ASSIGNMENTS, updated=WRAPPER_UPDATES):
    return partial(update_wrapper, wrapped=wrapped, assigned=assigned, updated=updated)
_initial_missing = object()
def reduce(function, sequence, initial=_initial_missing):
    it = iter(sequence)
    if initial is _initial_missing:
        try:
            value = next(it)
        except StopIteration:
            raise TypeError('reduce() of empty iterable with no initial value') from None
    else:
        value = initial
    for element in it:
        value = function(value, element)
    return value
class partial:
    def __new__(cls, func=_initial_missing, /, *args, **keywords):
        if func is _initial_missing:
            raise TypeError(\"type 'partial' takes at least one argument\")
        if not callable(func):
            raise TypeError('the first argument must be callable')
        if isinstance(func, partial):
            args = func.args + args
            keywords = \x7b**func.keywords, **keywords\x7d
            func = func.func
        self = super(partial, cls).__new__(cls)
        self.func = func
        self.args = args
        self.keywords = keywords
        return self
    def __call__(self, /, *args, **keywords):
        keywords = \x7b**self.keywords, **keywords\x7d
        return self.func(*self.args, *args, **keywords)
    def __repr__(self):
        qualname = type(self).__qualname__
        args = [repr(self.func)]
        args.extend(repr(x) for x in self.args)
        args.extend(f'\x7bk\x7d=\x7bv!r\x7d' for (k, v) in self.keywords.items())
        if type(self).__module__ == 'functools':
            return f\"functools.\x7bqualname\x7d(\x7b', '.join(args)\x7d)\"
        return f\"\x7bqualname\x7d(\x7b', '.join(args)\x7d)\"
    def __get__(self, obj, objtype=None):
        return self
class partialmethod:
    def __init__(self, func, /, *args, **keywords):
        self.func = func
        self.args = args
        self.keywords = keywords
    def __get__(self, obj, cls=None):
        if obj is None:
            return self
        return partial(self.func, obj, *self.args, **self.keywords)
_CacheInfo = namedtuple('CacheInfo', ['hits', 'misses', 'maxsize', 'currsize'])
_kwd_mark = object()
class _bound_method:
    def __init__(self, func, obj):
        self.__func__ = func
        self.__self__ = obj
    def __call__(self, /, *args, **kwds):
        return self.__func__(self.__self__, *args, **kwds)
class _lru_cache_wrapper:
    def __init__(self, user_function, maxsize, typed):
        self._function = user_function
        self._maxsize = maxsize
        self._typed = typed
        self._cache = \x7b\x7d
        self._hits = 0
        self._misses = 0
        update_wrapper(self, user_function)
    def _key(self, args, kwds):
        key = args
        if kwds:
            key += (_kwd_mark,)
            for item in kwds.items():
                key += item
        if self._typed:
            key += tuple(type(v) for v in args)
            if kwds:
                key += tuple(type(v) for v in kwds.values())
        return key
    def __call__(self, /, *args, **kwds):
        if self._maxsize == 0:
            self._misses += 1
            return self._function(*args, **kwds)
        key = self._key(args, kwds)
        cache = self._cache
        if key in cache:
            self._hits += 1
            result = cache.pop(key)
            cache[key] = result
            return result
        self._misses += 1
        result = self._function(*args, **kwds)
        if key in cache:
            return result
        cache[key] = result
        if self._maxsize is not None and len(cache) > self._maxsize:
            del cache[next(iter(cache))]
        return result
    def cache_info(self):
        return _CacheInfo(self._hits, self._misses, self._maxsize, len(self._cache))
    def cache_clear(self):
        self._cache.clear()
        self._hits = 0
        self._misses = 0
    def cache_parameters(self):
        return \x7b'maxsize': self._maxsize, 'typed': self._typed\x7d
    def __get__(self, obj, objtype=None):
        if obj is None:
            return self
        return _bound_method(self, obj)
def lru_cache(maxsize=128, typed=False):
    if isinstance(maxsize, int):
        if maxsize < 0:
            maxsize = 0
    elif callable(maxsize) and isinstance(typed, bool):
        user_function, maxsize = maxsize, 128
        return _lru_cache_wrapper(user_function, maxsize, typed)
    elif maxsize is not None:
        raise TypeError('Expected first argument to be an integer, a callable, or None')
    def decorating_function(user_function):
        return _lru_cache_wrapper(user_function, maxsize, typed)
    return decorating_function
def cache(user_function, /):
    return lru_cache(maxsize=None)(user_function)
_NOT_FOUND = object()
class cached_property:
    def __init__(self, func):
        self.func = func
        self.attrname = None
        self.__doc__ = func.__doc__
    def __set_name__(self, owner, name):
        if self.attrname is None:
            self.attrname = name
        elif name != self.attrname:
            raise TypeError(
                'Cannot assign the same cached_property to two different names '
                f'(\x7bself.attrname!r\x7d and \x7bname!r\x7d).')
    def __get__(self, instance, owner=None):
        if instance is None:
            return self
        if self.attrname is None:
            raise TypeError(
                'Cannot use cached_property instance without calling __set_name__ on it.')
        cache = instance.__dict__
        val = cache.get(self.attrname, _NOT_FOUND)
        if val is _NOT_FOUND:
            val = self.func(instance)
            setattr(instance, self.attrname, val)
        return val
def _gt_from_lt(self, other):
    op_result = type(self).__lt__(self, other)
    if op_result is NotImplemented:
        return op_result
    return not op_result and self != other
def _le_from_lt(self, other):
    op_result = type(self).__lt__(self, other)
    if op_result is NotImplemented:
        return op_result
    return op_result or self == other
def _ge_from_lt(self, other):
    op_result = type(self).__lt__(self, other)
    if op_result is NotImplemented:
        return op_result
    return not op_result
def _ge_from_le(self, other):
    op_result = type(self).__le__(self, other)
    if op_result is NotImplemented:
        return op_result
    return not op_result or self == other
def _lt_from_le(self, other):
    op_result = type(self).__le__(self, other)
    if op_result is NotImplemented:
        return op_result
    return op_result and self != other
def _gt_from_le(self, other):
    op_result = type(self).__le__(self, other)
    if op_result is NotImplemented:
        return op_result
    return not op_result
def _lt_from_gt(self, other):
    op_result = type(self).__gt__(self, other)
    if op_result is NotImplemented:
        return op_result
    return not op_result and self != other
def _ge_from_gt(self, other):
    op_result = type(self).__gt__(self, other)
    if op_result is NotImplemented:
        return op_result
    return op_result or self == other
def _le_from_gt(self, other):
    op_result = type(self).__gt__(self, other)
    if op_result is NotImplemented:
        return op_result
    return not op_result
def _le_from_ge(self, other):
    op_result = type(self).__ge__(self, other)
    if op_result is NotImplemented:
        return op_result
    return not op_result or self == other
def _gt_from_ge(self, other):
    op_result = type(self).__ge__(self, other)
    if op_result is NotImplemented:
        return op_result
    return op_result and self != other
def _lt_from_ge(self, other):
    op_result = type(self).__ge__(self, other)
    if op_result is NotImplemented:
        return op_result
    return not op_result
_convert = \x7b
    '__lt__': [('__gt__', _gt_from_lt), ('__le__', _le_from_lt), ('__ge__', _ge_from_lt)],
    '__le__': [('__ge__', _ge_from_le), ('__lt__', _lt_from_le), ('__gt__', _gt_from_le)],
    '__gt__': [('__lt__', _lt_from_gt), ('__ge__', _ge_from_gt), ('__le__', _le_from_gt)],
    '__ge__': [('__le__', _le_from_ge), ('__gt__', _gt_from_ge), ('__lt__', _lt_from_ge)],
\x7d
def total_ordering(cls):
    roots = \x7bop for op in _convert
             if any(op in vars(c) for c in cls.__mro__ if c is not object)\x7d
    if not roots:
        raise ValueError('must define at least one ordering operation: < > <= >=')
    root = max(roots)
    for opname, opfunc in _convert[root]:
        if opname not in roots:
            setattr(cls, opname, _renamed(opfunc, opname))
    return cls
def _renamed(func, name):
    def method(self, other):
        return func(self, other)
    method.__name__ = name
    method.__qualname__ = func.__qualname__
    return method
def cmp_to_key(mycmp):
    class K(object):
        __slots__ = ['obj']
        def __init__(self, obj):
            self.obj = obj
        def __lt__(self, other):
            return mycmp(self.obj, other.obj) < 0
        def __gt__(self, other):
            return mycmp(self.obj, other.obj) > 0
        def __eq__(self, other):
            return mycmp(self.obj, other.obj) == 0
        def __le__(self, other):
            return mycmp(self.obj, other.obj) <= 0
        def __ge__(self, other):
            return mycmp(self.obj, other.obj) >= 0
        __hash__ = None
    K.__name__ = 'KeyWrapper'
    K.__qualname__ = 'KeyWrapper'
    return K
def singledispatch(func):
    registry = \x7b\x7d
    def dispatch(cls):
        for c in cls.__mro__:
            if c in registry:
                return registry[c]
        return func
    def register(cls, func=None):
        if func is None:
            if isinstance(cls, type):
                return lambda f: register(cls, f)
            ann = getattr(cls, '__annotations__', \x7b\x7d)
            if not ann:
                raise TypeError(
                    f'Invalid first argument to `register()`: \x7bcls!r\x7d. '
                    'Use either `@register(some_class)` or plain `@register` '
                    'on an annotated function.')
            func = cls
            cls = list(ann.values())[0]
        registry[cls] = func
        return func
    def wrapper(*args, **kw):
        if not args:
            raise TypeError(f'\x7bfuncname\x7d requires at least 1 positional argument')
        return dispatch(args[0].__class__)(*args, **kw)
    funcname = getattr(func, '__name__', 'singledispatch function')
    registry[object] = func
    wrapper.register = register
    wrapper.dispatch = dispatch
    wrapper.registry = registry
    update_wrapper(wrapper, func)
    return wrapper
"

end StubDoctest.Bundled
