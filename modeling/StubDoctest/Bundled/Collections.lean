/-!
# The bundled module `collections`

Container types beyond the built-in ones: `Counter`, `defaultdict`, `OrderedDict`, `deque`, `ChainMap` and `namedtuple`, with the texts and faults of the standard ones.
-/

namespace StubDoctest.Bundled

/-- The source of `collections`. -/
def collections : String := "from keyword import iskeyword as _iskeyword
def _count_elements(mapping, iterable):
    mapping_get = mapping.get
    for elem in iterable:
        mapping[elem] = mapping_get(elem, 0) + 1
def _is_mapping(obj):
    return isinstance(obj, dict) or (hasattr(obj, 'keys') and hasattr(obj, '__getitem__'))
class OrderedDict(dict):
    def __repr__(self):
        if not self:
            return '%s()' % (self.__class__.__name__,)
        return '%s(%r)' % (self.__class__.__name__, list(self.items()))
    def move_to_end(self, key, last=True):
        value = dict.pop(self, key)
        if last:
            dict.__setitem__(self, key, value)
        else:
            rest = list(dict.items(self))
            dict.clear(self)
            dict.__setitem__(self, key, value)
            dict.update(self, rest)
    def popitem(self, last=True):
        if not self:
            raise KeyError('dictionary is empty')
        key = next(reversed(self)) if last else next(iter(self))
        value = dict.pop(self, key)
        return key, value
    def copy(self):
        return self.__class__(self)
    @classmethod
    def fromkeys(cls, iterable, value=None):
        self = cls()
        for key in iterable:
            self[key] = value
        return self
    def __eq__(self, other):
        if isinstance(other, OrderedDict):
            return dict.__eq__(self, other) and list(self) == list(other)
        return dict.__eq__(self, other)
    def __ne__(self, other):
        return not self == other
    def __or__(self, other):
        if not isinstance(other, dict):
            return NotImplemented
        new = self.__class__(self)
        new.update(other)
        return new
    def __ror__(self, other):
        if not isinstance(other, dict):
            return NotImplemented
        new = self.__class__(other)
        new.update(self)
        return new
    def __ior__(self, other):
        self.update(other)
        return self
class Counter(dict):
    def __init__(self, iterable=None, /, **kwds):
        super().__init__()
        self.update(iterable, **kwds)
    def __missing__(self, key):
        return 0
    def total(self):
        return sum(self.values())
    def most_common(self, n=None):
        items = sorted(self.items(), key=lambda kv: kv[1], reverse=True)
        if n is None:
            return items
        return items[:max(n, 0)]
    def elements(self):
        for elem, count in self.items():
            for _ in range(count):
                yield elem
    @classmethod
    def fromkeys(cls, iterable, v=None):
        raise NotImplementedError(
            'Counter.fromkeys() is undefined.  Use Counter(iterable) instead.')
    def update(self, iterable=None, /, **kwds):
        if iterable is not None:
            if _is_mapping(iterable):
                if self:
                    self_get = self.get
                    for elem in iterable.keys():
                        self[elem] = iterable[elem] + self_get(elem, 0)
                else:
                    for elem in iterable.keys():
                        dict.__setitem__(self, elem, iterable[elem])
            else:
                _count_elements(self, iterable)
        if kwds:
            self.update(kwds)
    def subtract(self, iterable=None, /, **kwds):
        if iterable is not None:
            self_get = self.get
            if _is_mapping(iterable):
                for elem in iterable.keys():
                    self[elem] = self_get(elem, 0) - iterable[elem]
            else:
                for elem in iterable:
                    self[elem] = self_get(elem, 0) - 1
        if kwds:
            self.subtract(kwds)
    def copy(self):
        return self.__class__(self)
    def __delitem__(self, elem):
        if elem in self:
            super().__delitem__(elem)
    def __repr__(self):
        if not self:
            return f'\x7bself.__class__.__name__\x7d()'
        try:
            d = dict(self.most_common())
        except TypeError:
            d = dict(self)
        return f'\x7bself.__class__.__name__\x7d(\x7bd!r\x7d)'
    def __eq__(self, other):
        if not isinstance(other, Counter):
            return NotImplemented
        return all(self[e] == other[e] for c in (self, other) for e in c)
    def __ne__(self, other):
        if not isinstance(other, Counter):
            return NotImplemented
        return not self == other
    def __le__(self, other):
        if not isinstance(other, Counter):
            return NotImplemented
        return all(self[e] <= other[e] for c in (self, other) for e in c)
    def __lt__(self, other):
        if not isinstance(other, Counter):
            return NotImplemented
        return self <= other and self != other
    def __ge__(self, other):
        if not isinstance(other, Counter):
            return NotImplemented
        return all(self[e] >= other[e] for c in (self, other) for e in c)
    def __gt__(self, other):
        if not isinstance(other, Counter):
            return NotImplemented
        return self >= other and self != other
    def __add__(self, other):
        if not isinstance(other, Counter):
            return NotImplemented
        result = Counter()
        for elem, count in self.items():
            newcount = count + other[elem]
            if newcount > 0:
                result[elem] = newcount
        for elem, count in other.items():
            if elem not in self and count > 0:
                result[elem] = count
        return result
    def __sub__(self, other):
        if not isinstance(other, Counter):
            return NotImplemented
        result = Counter()
        for elem, count in self.items():
            newcount = count - other[elem]
            if newcount > 0:
                result[elem] = newcount
        for elem, count in other.items():
            if elem not in self and count < 0:
                result[elem] = 0 - count
        return result
    def __or__(self, other):
        if not isinstance(other, Counter):
            return NotImplemented
        result = Counter()
        for elem, count in self.items():
            other_count = other[elem]
            newcount = other_count if count < other_count else count
            if newcount > 0:
                result[elem] = newcount
        for elem, count in other.items():
            if elem not in self and count > 0:
                result[elem] = count
        return result
    def __and__(self, other):
        if not isinstance(other, Counter):
            return NotImplemented
        result = Counter()
        for elem, count in self.items():
            other_count = other[elem]
            newcount = count if count < other_count else other_count
            if newcount > 0:
                result[elem] = newcount
        return result
    def __pos__(self):
        result = Counter()
        for elem, count in self.items():
            if count > 0:
                result[elem] = count
        return result
    def __neg__(self):
        result = Counter()
        for elem, count in self.items():
            if count < 0:
                result[elem] = 0 - count
        return result
    def _keep_positive(self):
        nonpositive = [elem for elem, count in self.items() if not count > 0]
        for elem in nonpositive:
            del self[elem]
        return self
    def __iadd__(self, other):
        for elem, count in other.items():
            self[elem] += count
        return self._keep_positive()
    def __isub__(self, other):
        for elem, count in other.items():
            self[elem] -= count
        return self._keep_positive()
    def __ior__(self, other):
        for elem, other_count in other.items():
            count = self[elem]
            if other_count > count:
                self[elem] = other_count
        return self._keep_positive()
    def __iand__(self, other):
        for elem, count in self.items():
            other_count = other[elem]
            if other_count < count:
                self[elem] = other_count
        return self._keep_positive()
class defaultdict(dict):
    def __init__(self, default_factory=None, /, *args, **kwds):
        if default_factory is not None and not callable(default_factory):
            raise TypeError('first argument must be callable or None')
        super().__init__(*args, **kwds)
        self.default_factory = default_factory
    def __missing__(self, key):
        if self.default_factory is None:
            raise KeyError(key)
        self[key] = value = self.default_factory()
        return value
    def __repr__(self):
        return f'\x7btype(self).__name__\x7d(\x7bself.default_factory!r\x7d, \x7bdict.__repr__(self)\x7d)'
    def copy(self):
        return type(self)(self.default_factory, self)
    __copy__ = copy
    def __or__(self, other):
        if not isinstance(other, dict):
            return NotImplemented
        new = self.copy()
        new.update(other)
        return new
    def __ror__(self, other):
        if not isinstance(other, dict):
            return NotImplemented
        new = type(self)(self.default_factory, other)
        new.update(self)
        return new
class deque:
    __abc_tpflags__ = 1 << 5
    def __init__(self, iterable=(), maxlen=None):
        if maxlen is not None:
            maxlen = _index(maxlen)
            if maxlen < 0:
                raise ValueError('maxlen must be non-negative')
        self._maxlen = maxlen
        self._items = []
        self.extend(iterable)
    @property
    def maxlen(self):
        return self._maxlen
    def _trim_right(self):
        if self._maxlen is not None:
            while len(self._items) > self._maxlen:
                del self._items[0]
    def _trim_left(self):
        if self._maxlen is not None:
            while len(self._items) > self._maxlen:
                self._items.pop()
    def append(self, x):
        self._items.append(x)
        self._trim_right()
    def appendleft(self, x):
        self._items.insert(0, x)
        self._trim_left()
    def extend(self, iterable):
        if iterable is self:
            iterable = list(iterable)
        for x in iterable:
            self.append(x)
    def extendleft(self, iterable):
        if iterable is self:
            iterable = list(iterable)
        for x in iterable:
            self.appendleft(x)
    def pop(self):
        if not self._items:
            raise IndexError('pop from an empty deque')
        return self._items.pop()
    def popleft(self):
        if not self._items:
            raise IndexError('pop from an empty deque')
        return self._items.pop(0)
    def clear(self):
        self._items.clear()
    def copy(self):
        return deque(self._items, self._maxlen)
    __copy__ = copy
    def count(self, x):
        return self._items.count(x)
    def index(self, x, start=0, stop=None):
        n = len(self._items)
        if stop is None:
            stop = n
        for i in range(n)[start:stop]:
            if self._items[i] is x or self._items[i] == x:
                return i
        raise ValueError(f'\x7bx!r\x7d is not in deque')
    def insert(self, i, x):
        if self._maxlen is not None and len(self._items) >= self._maxlen:
            raise IndexError('deque already at its maximum size')
        self._items.insert(i, x)
    def remove(self, value):
        for i, x in enumerate(self._items):
            if x is value or x == value:
                del self._items[i]
                return
        raise ValueError(f'\x7bvalue!r\x7d is not in deque')
    def reverse(self):
        self._items.reverse()
    def rotate(self, n=1):
        n = _index(n)
        k = len(self._items)
        if k:
            n = n % k
            if n:
                self._items[:] = self._items[-n:] + self._items[:-n]
    def _position(self, i):
        if not isinstance(i, int):
            if hasattr(type(i), '__index__'):
                i = i.__index__()
            else:
                raise TypeError(f'sequence index must be integer, not \x7btype(i).__name__!r\x7d')
        n = len(self._items)
        if i < 0:
            i += n
        if i < 0 or i >= n:
            raise IndexError('deque index out of range')
        return i
    def __getitem__(self, i):
        return self._items[self._position(i)]
    def __setitem__(self, i, x):
        self._items[self._position(i)] = x
    def __delitem__(self, i):
        del self._items[self._position(i)]
    def __len__(self):
        return len(self._items)
    def __iter__(self):
        return iter(self._items)
    def __reversed__(self):
        return reversed(self._items)
    def __contains__(self, x):
        return x in self._items
    def __bool__(self):
        return bool(self._items)
    def __repr__(self):
        if self._maxlen is None:
            return f'deque(\x7bself._items!r\x7d)'
        return f'deque(\x7bself._items!r\x7d, maxlen=\x7bself._maxlen\x7d)'
    def __eq__(self, other):
        if not isinstance(other, deque):
            return NotImplemented
        return self._items == other._items
    def __ne__(self, other):
        if not isinstance(other, deque):
            return NotImplemented
        return self._items != other._items
    def __lt__(self, other):
        if not isinstance(other, deque):
            return NotImplemented
        return self._items < other._items
    def __le__(self, other):
        if not isinstance(other, deque):
            return NotImplemented
        return self._items <= other._items
    def __gt__(self, other):
        if not isinstance(other, deque):
            return NotImplemented
        return self._items > other._items
    def __ge__(self, other):
        if not isinstance(other, deque):
            return NotImplemented
        return self._items >= other._items
    __hash__ = None
    def __add__(self, other):
        if not isinstance(other, deque):
            raise TypeError(f'can only concatenate deque (not \"\x7btype(other).__name__\x7d\") to deque')
        return deque(self._items + other._items, self._maxlen)
    def __iadd__(self, other):
        self.extend(other)
        return self
    def __mul__(self, n):
        return deque(self._items * n, self._maxlen)
    __rmul__ = __mul__
    def __imul__(self, n):
        self._items *= n
        self._trim_right()
        return self
def _index(n):
    if isinstance(n, int):
        return int(n)
    if hasattr(type(n), '__index__'):
        return n.__index__()
    raise TypeError(f'\x7btype(n).__name__!r\x7d object cannot be interpreted as an integer')
class ChainMap:
    def __init__(self, *maps):
        self.maps = list(maps) or [\x7b\x7d]
    def __missing__(self, key):
        raise KeyError(key)
    def __getitem__(self, key):
        for mapping in self.maps:
            if key in mapping:
                return mapping[key]
        return self.__missing__(key)
    def get(self, key, default=None):
        return self[key] if key in self else default
    def __len__(self):
        return len(set().union(*self.maps))
    def __iter__(self):
        d = \x7b\x7d
        for mapping in reversed(self.maps):
            d.update(dict.fromkeys(mapping))
        return iter(d)
    def __contains__(self, key):
        return any(key in m for m in self.maps)
    def __bool__(self):
        return any(self.maps)
    def __repr__(self):
        return f'\x7bself.__class__.__name__\x7d(\x7b\", \".join(map(repr, self.maps))\x7d)'
    def keys(self):
        return list(self)
    def items(self):
        return [(k, self[k]) for k in self]
    def values(self):
        return [self[k] for k in self]
    def copy(self):
        return self.__class__(self.maps[0].copy(), *self.maps[1:])
    __copy__ = copy
    def new_child(self, m=None, **kwargs):
        if m is None:
            m = kwargs
        elif kwargs:
            m.update(kwargs)
        return self.__class__(m, *self.maps)
    @property
    def parents(self):
        return self.__class__(*self.maps[1:])
    def __setitem__(self, key, value):
        self.maps[0][key] = value
    def __delitem__(self, key):
        try:
            del self.maps[0][key]
        except KeyError:
            raise KeyError(f'Key not found in the first mapping: \x7bkey!r\x7d')
    def pop(self, key, *args):
        try:
            return self.maps[0].pop(key, *args)
        except KeyError:
            raise KeyError(f'Key not found in the first mapping: \x7bkey!r\x7d')
    def clear(self):
        self.maps[0].clear()
    def __eq__(self, other):
        return dict(self.items()) == dict(other.items())
class _tuplegetter:
    def __init__(self, index, doc):
        self._index = index
        self.__doc__ = doc
    def __get__(self, obj, objtype=None):
        if obj is None:
            return self
        return tuple.__getitem__(obj, self._index)
    def __set__(self, obj, value):
        raise AttributeError(\"can't set attribute\")
    def __delete__(self, obj):
        raise AttributeError(\"can't delete attribute\")
    def __repr__(self):
        return f'_tuplegetter(\x7bself._index\x7d, \x7bself.__doc__!r\x7d)'
def namedtuple(typename, field_names, *, rename=False, defaults=None, module=None):
    if isinstance(field_names, str):
        field_names = field_names.replace(',', ' ').split()
    field_names = list(map(str, field_names))
    typename = str(typename)
    if rename:
        seen = set()
        for index, name in enumerate(field_names):
            if (not name.isidentifier() or _iskeyword(name) or name.startswith('_')
                    or name in seen):
                field_names[index] = f'_\x7bindex\x7d'
            seen.add(name)
    for name in [typename] + field_names:
        if type(name) is not str:
            raise TypeError('Type names and field names must be strings')
        if not name.isidentifier():
            raise ValueError('Type names and field names must be valid '
                             f'identifiers: \x7bname!r\x7d')
        if _iskeyword(name):
            raise ValueError('Type names and field names cannot be a '
                             f'keyword: \x7bname!r\x7d')
    seen = set()
    for name in field_names:
        if name.startswith('_') and not rename:
            raise ValueError('Field names cannot start with an underscore: '
                             f'\x7bname!r\x7d')
        if name in seen:
            raise ValueError(f'Encountered duplicate field name: \x7bname!r\x7d')
        seen.add(name)
    field_defaults = \x7b\x7d
    if defaults is not None:
        defaults = tuple(defaults)
        if len(defaults) > len(field_names):
            raise TypeError('Got more default values than field names')
        field_defaults = dict(reversed(list(zip(reversed(field_names),
                                                reversed(defaults)))))
    field_names = tuple(field_names)
    num_fields = len(field_names)
    arg_list = ', '.join(field_names)
    if num_fields == 1:
        arg_list += ','
    repr_fmt = '(' + ', '.join(f'\x7bname\x7d=%r' for name in field_names) + ')'
    tuple_new = tuple.__new__
    namespace = \x7b'_tuple_new': tuple_new, '__builtins__': \x7b\x7d, '__name__': f'namedtuple_\x7btypename\x7d'\x7d
    code = f'lambda _cls, \x7barg_list\x7d: _tuple_new(_cls, (\x7barg_list\x7d))'
    __new__ = eval(code, namespace)
    __new__.__name__ = '__new__'
    __new__.__doc__ = f'Create new instance of \x7btypename\x7d(\x7barg_list\x7d)'
    if defaults is not None:
        __new__.__defaults__ = defaults
    @classmethod
    def _make(cls, iterable):
        result = tuple_new(cls, iterable)
        if len(result) != num_fields:
            raise TypeError(f'Expected \x7bnum_fields\x7d arguments, got \x7blen(result)\x7d')
        return result
    def _replace(self, /, **kwds):
        result = self._make(map(kwds.pop, field_names, self))
        if kwds:
            raise ValueError(f'Got unexpected field names: \x7blist(kwds)!r\x7d')
        return result
    def __repr__(self):
        return self.__class__.__name__ + repr_fmt % self
    def _asdict(self):
        return dict(zip(self._fields, self))
    def __getnewargs__(self):
        return tuple(self)
    for method in (__new__, _make.__func__, _replace, __repr__, _asdict, __getnewargs__):
        method.__qualname__ = f'\x7btypename\x7d.\x7bmethod.__name__\x7d'
    class_namespace = \x7b
        '__doc__': f'\x7btypename\x7d(\x7barg_list\x7d)',
        '__slots__': (),
        '_fields': field_names,
        '_field_defaults': field_defaults,
        '__new__': __new__,
        '_make': _make,
        '_replace': _replace,
        '__repr__': __repr__,
        '_asdict': _asdict,
        '__getnewargs__': __getnewargs__,
        '__match_args__': field_names,
    \x7d
    for index, name in enumerate(field_names):
        class_namespace[name] = _tuplegetter(index, f'Alias for field number \x7bindex\x7d')
    result = type(typename, (tuple,), class_namespace)
    if module is None:
        module = '__main__'
    result.__module__ = module
    return result
"

end StubDoctest.Bundled
