/-!
# The bundled module `abc`

Abstract base classes: a metaclass that records abstract methods and refuses to instantiate a class that still has some, with registration of virtual subclasses.
-/

namespace StubDoctest.Bundled

/-- The source of `abc`. -/
def abc : String := "def abstractmethod(funcobj):
    funcobj.__isabstractmethod__ = True
    return funcobj
class abstractclassmethod(classmethod):
    __isabstractmethod__ = True
    def __init__(self, callable):
        callable.__isabstractmethod__ = True
        super().__init__(callable)
class abstractstaticmethod(staticmethod):
    __isabstractmethod__ = True
    def __init__(self, callable):
        callable.__isabstractmethod__ = True
        super().__init__(callable)
class abstractproperty(property):
    __isabstractmethod__ = True
def _is_abstract(value):
    if isinstance(value, (classmethod, staticmethod)):
        value = value.__func__
    return getattr(value, '__isabstractmethod__', False)
_invalidation = [0]
_nesting = [0]
class ABCMeta(type):
    def __new__(mcls, name, bases, namespace, /, **kwargs):
        cls = super().__new__(mcls, name, bases, namespace, **kwargs)
        abstracts = \x7bname for name, value in namespace.items() if _is_abstract(value)\x7d
        for base in bases:
            for name in getattr(base, '__abstractmethods__', set()):
                value = getattr(cls, name, None)
                if _is_abstract(value):
                    abstracts.add(name)
        cls.__abstractmethods__ = frozenset(abstracts)
        cls._abc_registry = []
        cls._abc_cache = set()
        cls._abc_negative_cache = set()
        cls._abc_negative_cache_version = _invalidation[0]
        return cls
    def register(cls, subclass):
        if not isinstance(subclass, type):
            raise TypeError('Can only register classes')
        if issubclass(subclass, cls):
            return subclass
        if issubclass(cls, subclass):
            raise RuntimeError('Refusing to create an inheritance cycle')
        cls._abc_registry.append(subclass)
        _invalidation[0] += 1
        return subclass
    def __instancecheck__(cls, instance):
        return cls.__subclasscheck__(type(instance))
    def __subclasscheck__(cls, subclass):
        _nesting[0] += 1
        try:
            return cls._abc_subclasscheck(subclass)
        finally:
            _nesting[0] -= 1
    def _abc_subclasscheck(cls, subclass):
        if not isinstance(subclass, type):
            raise TypeError('issubclass() arg 1 must be a class')
        if subclass in cls._abc_cache:
            return True
        if cls._abc_negative_cache_version < _invalidation[0]:
            cls._abc_negative_cache = set()
            cls._abc_negative_cache_version = _invalidation[0]
        elif subclass in cls._abc_negative_cache:
            return False
        ok = cls.__subclasshook__(subclass)
        if ok is not NotImplemented:
            if ok:
                cls._abc_cache.add(subclass)
            else:
                cls._abc_negative_cache.add(subclass)
            return bool(ok)
        if cls in subclass.__mro__:
            cls._abc_cache.add(subclass)
            return True
        for rcls in cls._abc_registry:
            if issubclass(subclass, rcls):
                cls._abc_cache.add(subclass)
                return True
        for scls in cls.__subclasses__():
            if scls is not cls and issubclass(subclass, scls):
                cls._abc_cache.add(subclass)
                return True
        cls._abc_negative_cache.add(subclass)
        return False
    def __subclasshook__(cls, subclass):
        return NotImplemented
    def _dump_registry(cls, file=None):
        print(f'Class: \x7bcls.__module__\x7d.\x7bcls.__qualname__\x7d', file=file)
class ABC(metaclass=ABCMeta):
    __slots__ = ()
def get_cache_token():
    return 0
def update_abstractmethods(cls):
    if not hasattr(cls, '__abstractmethods__'):
        return cls
    abstracts = set()
    for scls in cls.__bases__:
        for name in getattr(scls, '__abstractmethods__', ()):
            value = getattr(cls, name, None)
            if _is_abstract(value):
                abstracts.add(name)
    for name, value in cls.__dict__.items():
        if _is_abstract(value):
            abstracts.add(name)
    cls.__abstractmethods__ = frozenset(abstracts)
    return cls
"

end StubDoctest.Bundled
