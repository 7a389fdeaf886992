/-!
# The bundled module `types`

Names for the types of the runtime's values, generic aliases of classes such as list[int], unions of types written with |, and simple namespaces.
-/

namespace StubDoctest.Bundled

/-- The source of `types`. -/
def types : String := "\x69mport sys as _sys
def _f():
    pass
FunctionType = type(_f)
LambdaType = type(lambda: None)
class _C:
    def _m(self):
        pass
MethodType = type(_C()._m)
BuiltinFunctionType = type(len)
BuiltinMethodType = type([].append)
ModuleType = type(_sys)
def _g():
    yield 1
GeneratorType = type(_g())
NoneType = type(None)
EllipsisType = type(...)
NotImplementedType = type(NotImplemented)
del _f, _C, _g
class MappingProxyType:
    def __init__(self, mapping):
        if not hasattr(mapping, 'keys') or not hasattr(mapping, '__getitem__'):
            raise TypeError(f\"mappingproxy() argument must be a mapping, not \x7btype(mapping).__name__\x7d\")
        self._mapping = mapping
    def __getitem__(self, key):
        return self._mapping[key]
    def __iter__(self):
        return iter(self._mapping)
    def __len__(self):
        return len(self._mapping)
    def __contains__(self, key):
        return key in self._mapping
    def get(self, key, default=None):
        return self._mapping.get(key, default)
    def keys(self):
        return self._mapping.keys()
    def values(self):
        return self._mapping.values()
    def items(self):
        return self._mapping.items()
    def copy(self):
        return self._mapping.copy()
    def __eq__(self, other):
        return self._mapping == other
    def __or__(self, other):
        return dict(self._mapping) | other
    def __repr__(self):
        return f'mappingproxy(\x7bself._mapping!r\x7d)'
    def __str__(self):
        return str(self._mapping)
class _MemberDescriptor:
    pass
MemberDescriptorType = _MemberDescriptor
GetSetDescriptorType = _MemberDescriptor
class SimpleNamespace:
    def __init__(self, /, *args, **kwargs):
        if args:
            raise TypeError('no positional arguments expected')
        for key, value in kwargs.items():
            setattr(self, key, value)
    def __repr__(self):
        name = 'namespace' if type(self) is SimpleNamespace else type(self).__name__
        items = ', '.join(f'\x7bk\x7d=\x7bv!r\x7d' for k, v in vars(self).items())
        return f'\x7bname\x7d(\x7bitems\x7d)'
    def __eq__(self, other):
        if isinstance(self, SimpleNamespace) and isinstance(other, SimpleNamespace):
            return vars(self) == vars(other)
        return NotImplemented
    __hash__ = None
def _type_repr(obj):
    if obj is ...:
        return '...'
    if obj is NoneType:
        return 'None'
    if isinstance(obj, (GenericAlias, UnionType)):
        return repr(obj)
    if hasattr(obj, '__origin__') and hasattr(obj, '__args__'):
        return repr(obj)
    if isinstance(obj, type):
        module = getattr(obj, '__module__', None)
        qualname = getattr(obj, '__qualname__', None)
        if qualname is None:
            return repr(obj)
        if module == 'builtins':
            return qualname
        return f'\x7bmodule\x7d.\x7bqualname\x7d'
    if isinstance(obj, list):
        return '[' + ', '.join(_type_repr(a) for a in obj) + ']'
    return repr(obj)
def _collect_parameters(args):
    params = []
    for arg in args:
        if isinstance(arg, type):
            continue
        if hasattr(arg, '__typing_subst__'):
            if arg not in params:
                params.append(arg)
        else:
            for p in getattr(arg, '__parameters__', ()):
                if p not in params:
                    params.append(p)
    return tuple(params)
def _substitute(arg, subst):
    if hasattr(arg, '__typing_subst__') and arg in subst:
        return subst[arg]
    sub = getattr(arg, '__parameters__', ())
    if sub and not isinstance(arg, type):
        return arg[tuple(subst[p] for p in sub)]
    return arg
class GenericAlias:
    def __init__(self, origin, args, /):
        if not isinstance(args, tuple):
            args = (args,)
        self.__origin__ = origin
        self.__args__ = args
        self.__parameters__ = _collect_parameters(args)
        self.__unpacked__ = False
    def __repr__(self):
        if len(self.__args__) == 0:
            args = '()'
        else:
            args = ', '.join(_type_repr(a) for a in self.__args__)
        return f'\x7b_type_repr(self.__origin__)\x7d[\x7bargs\x7d]'
    def __call__(self, *args, **kwargs):
        result = self.__origin__(*args, **kwargs)
        try:
            result.__orig_class__ = self
        except (AttributeError, TypeError):
            pass
        return result
    def __mro_entries__(self, bases):
        return (self.__origin__,)
    def __getattr__(self, name):
        if name.startswith('__') and name.endswith('__'):
            raise AttributeError(name)
        return getattr(self.__origin__, name)
    def __getitem__(self, item):
        params = self.__parameters__
        if not params:
            raise TypeError(f'There are no type variables left in \x7bself!r\x7d')
        if not isinstance(item, tuple):
            item = (item,)
        if len(item) != len(params):
            raise TypeError(f\"Too \x7b'many' if len(item) > len(params) else 'few'\x7d arguments for \x7bself!r\x7d; \"
                            f\"actual \x7blen(item)\x7d, expected \x7blen(params)\x7d\")
        subst = dict(zip(params, item))
        return GenericAlias(self.__origin__, tuple(_substitute(a, subst) for a in self.__args__))
    def __eq__(self, other):
        if not isinstance(other, GenericAlias):
            return NotImplemented
        return self.__origin__ == other.__origin__ and self.__args__ == other.__args__
    def __hash__(self):
        return hash(self.__origin__) ^ hash(self.__args__)
    def __or__(self, other):
        return _union(self, other)
    def __ror__(self, other):
        return _union(other, self)
    def __instancecheck__(self, obj):
        raise TypeError('isinstance() argument 2 cannot be a parameterized generic')
    def __subclasscheck__(self, cls):
        raise TypeError('issubclass() argument 2 cannot be a parameterized generic')
def _unionable(obj):
    return obj is None or isinstance(obj, (type, GenericAlias, UnionType))
class UnionType:
    def __init__(self, args):
        self.__args__ = args
        self.__parameters__ = _collect_parameters(args)
    def __repr__(self):
        return ' | '.join(_type_repr(a) for a in self.__args__)
    def __or__(self, other):
        return _union(self, other)
    def __ror__(self, other):
        return _union(other, self)
    def __eq__(self, other):
        if not isinstance(other, UnionType):
            return NotImplemented
        return set(self.__args__) == set(other.__args__)
    def __hash__(self):
        return hash(frozenset(self.__args__))
    def __getitem__(self, item):
        params = self.__parameters__
        if not params:
            raise TypeError(f'There are no type variables left in \x7bself!r\x7d')
        if not isinstance(item, tuple):
            item = (item,)
        subst = dict(zip(params, item))
        result = None
        for a in self.__args__:
            a = _substitute(a, subst)
            result = a if result is None else result | a
        return result
    def __instancecheck__(self, obj):
        for arg in self.__args__:
            if isinstance(arg, GenericAlias):
                raise TypeError('isinstance() argument 2 cannot be a parameterized generic')
        return any(isinstance(obj, arg) for arg in self.__args__)
    def __subclasscheck__(self, cls):
        for arg in self.__args__:
            if isinstance(arg, GenericAlias):
                raise TypeError('issubclass() argument 2 cannot be a parameterized generic')
        return any(issubclass(cls, arg) for arg in self.__args__)
def _union(a, b):
    if not (_unionable(a) and _unionable(b)):
        return NotImplemented
    args = []
    for x in (a, b):
        items = x.__args__ if isinstance(x, UnionType) else (x,)
        for item in items:
            if item is None:
                item = NoneType
            if item not in args:
                args.append(item)
    if len(args) == 1:
        return args[0]
    return UnionType(tuple(args))
def new_class(name, bases=(), kwds=None, exec_body=None):
    ns = \x7b\x7d
    if exec_body is not None:
        exec_body(ns)
    kwds = dict(kwds or \x7b\x7d)
    meta = kwds.pop('metaclass', type)
    return meta(name, tuple(bases), ns, **kwds)
def coroutine(func):
    return func
"

end StubDoctest.Bundled
