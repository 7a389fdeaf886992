/-!
# The bundled module `typing`

Support for type hints at run time: special forms such as Union and Optional, generic aliases of classes such as List[int], type variables, generic classes and protocols, named tuples, typed dictionaries, and the helpers that read hints back.
-/

namespace StubDoctest.Bundled

/-- The source of `typing`. -/
def typing : String := "\x69mport collections
\x69mport collections.abc
\x69mport types
from abc import abstractmethod, ABCMeta
\x69mport abc as _abc_module
\x69mport re as stdlib_re
def _caller(depth=1, default='__main__'):
    return default
def _type_convert(arg, module=None, *, allow_special_forms=False):
    if arg is None:
        return type(None)
    if isinstance(arg, str):
        return ForwardRef(arg, module=module, is_class=allow_special_forms)
    return arg
def _type_check(arg, msg, is_argument=True, module=None, *, allow_special_forms=False):
    invalid_generic_forms = (Generic, Protocol)
    if not allow_special_forms:
        invalid_generic_forms += (ClassVar,)
        if is_argument:
            invalid_generic_forms += (Final,)
    arg = _type_convert(arg, module=module, allow_special_forms=allow_special_forms)
    if isinstance(arg, _GenericAlias) and arg.__origin__ in invalid_generic_forms:
        raise TypeError(f\"\x7barg\x7d is not valid as type argument\")
    if arg in (Any, LiteralString, NoReturn, Never, Self, TypeAlias):
        return arg
    if allow_special_forms and arg in (ClassVar, Final):
        return arg
    if isinstance(arg, _SpecialForm) or arg in (Generic, Protocol):
        raise TypeError(f\"Plain \x7barg\x7d is not valid as type argument\")
    if type(arg) is tuple:
        raise TypeError(f\"\x7bmsg\x7d Got \x7barg!r:.100\x7d.\")
    return arg
def _is_param_expr(arg):
    return arg is ... or isinstance(arg, (tuple, list, ParamSpec, _ConcatenateGenericAlias))
def _type_repr(obj):
    if isinstance(obj, types.GenericAlias):
        return repr(obj)
    if isinstance(obj, type):
        if obj.__module__ == 'builtins':
            return obj.__qualname__
        return f'\x7bobj.__module__\x7d.\x7bobj.__qualname__\x7d'
    if obj is ...:
        return '...'
    if isinstance(obj, types.FunctionType):
        return obj.__name__
    return repr(obj)
def _is_typevar_like(x):
    return isinstance(x, (TypeVar, ParamSpec)) or _is_unpacked_typevartuple(x)
def _is_unpacked_typevartuple(x):
    return isinstance(x, _UnpackGenericAlias) and isinstance(x.__args__[0], TypeVarTuple)
def _collect_parameters(args):
    parameters = []
    for t in args:
        if isinstance(t, type):
            continue
        if hasattr(t, '__typing_subst__'):
            if t not in parameters:
                parameters.append(t)
        else:
            for x in getattr(t, '__parameters__', ()):
                if x not in parameters:
                    parameters.append(x)
    return tuple(parameters)
def _check_generic(cls, parameters, elen):
    if not elen:
        raise TypeError(f\"\x7bcls\x7d is not a generic class\")
    alen = len(parameters)
    if alen != elen:
        raise TypeError(f\"Too \x7b'many' if alen > elen else 'few'\x7d arguments for \x7bcls\x7d;\"
                        f\" actual \x7balen\x7d, expected \x7belen\x7d\")
def _deduplicate(params):
    all_params = set(params)
    if len(all_params) < len(params):
        new_params = []
        for t in params:
            if t in all_params:
                new_params.append(t)
                all_params.remove(t)
        params = new_params
    return params
def _remove_dups_flatten(parameters):
    params = []
    for p in parameters:
        if isinstance(p, (_UnionGenericAlias, types.UnionType)):
            params.extend(p.__args__)
        else:
            params.append(p)
    return tuple(_deduplicate(params))
def _flatten_literal_params(parameters):
    params = []
    for p in parameters:
        if isinstance(p, _LiteralGenericAlias):
            params.extend(p.__args__)
        else:
            params.append(p)
    return tuple(params)
def _tp_cache(func):
    cache = \x7b\x7d
    def inner(*args):
        try:
            key = args
            if key in cache:
                return cache[key]
            result = func(*args)
            cache[key] = result
            return result
        except TypeError:
            pass
        return func(*args)
    inner.__name__ = func.__name__
    inner.__qualname__ = func.__qualname__
    return inner
class _Sentinel:
    def __repr__(self):
        return '<sentinel>'
_sentinel = _Sentinel()
class _SpecialForm:
    def __init__(self, getitem):
        self._getitem = getitem
        self._name = getitem.__name__
        self.__doc__ = getitem.__doc__
    def __getattr__(self, item):
        if item in \x7b'__name__', '__qualname__'\x7d:
            return self._name
        raise AttributeError(item)
    def __mro_entries__(self, bases):
        raise TypeError(f\"Cannot subclass \x7bself!r\x7d\")
    def __repr__(self):
        return 'typing.' + self._name
    def __call__(self, *args, **kwds):
        raise TypeError(f\"Cannot instantiate \x7bself!r\x7d\")
    def __or__(self, other):
        return Union[self, other]
    def __ror__(self, other):
        return Union[other, self]
    def __instancecheck__(self, obj):
        raise TypeError(f\"\x7bself\x7d cannot be used with isinstance()\")
    def __subclasscheck__(self, cls):
        raise TypeError(f\"\x7bself\x7d cannot be used with issubclass()\")
    def __getitem__(self, parameters):
        return self._getitem(self, parameters)
class _LiteralSpecialForm(_SpecialForm):
    def __getitem__(self, parameters):
        if not isinstance(parameters, tuple):
            parameters = (parameters,)
        return self._getitem(self, *parameters)
class _AnyMeta(type):
    def __instancecheck__(self, obj):
        if self is Any:
            raise TypeError(\"typing.Any cannot be used with isinstance()\")
        return self in type(obj).__mro__
    def __repr__(self):
        if self is Any:
            return \"typing.Any\"
        return f\"<class '\x7bself.__qualname__\x7d'>\"
class Any(metaclass=_AnyMeta):
    def __new__(cls, *args, **kwargs):
        if cls is Any:
            raise TypeError(\"Any cannot be instantiated\")
        return super().__new__(cls)
@_SpecialForm
def NoReturn(self, parameters):
    raise TypeError(f\"\x7bself\x7d is not subscriptable\")
@_SpecialForm
def Never(self, parameters):
    raise TypeError(f\"\x7bself\x7d is not subscriptable\")
@_SpecialForm
def Self(self, parameters):
    raise TypeError(f\"\x7bself\x7d is not subscriptable\")
@_SpecialForm
def LiteralString(self, parameters):
    raise TypeError(f\"\x7bself\x7d is not subscriptable\")
@_SpecialForm
def ClassVar(self, parameters):
    item = _type_check(parameters, f'\x7bself\x7d accepts only single type.')
    return _GenericAlias(self, (item,))
@_SpecialForm
def Final(self, parameters):
    item = _type_check(parameters, f'\x7bself\x7d accepts only single type.')
    return _GenericAlias(self, (item,))
@_SpecialForm
def Union(self, parameters):
    if parameters == ():
        raise TypeError(\"Cannot take a Union of no types.\")
    if not isinstance(parameters, tuple):
        parameters = (parameters,)
    msg = \"Union[arg, ...]: each arg must be a type.\"
    parameters = tuple(_type_check(p, msg) for p in parameters)
    parameters = _remove_dups_flatten(parameters)
    if len(parameters) == 1:
        return parameters[0]
    if len(parameters) == 2 and type(None) in parameters:
        return _UnionGenericAlias(self, parameters, name=\"Optional\")
    return _UnionGenericAlias(self, parameters)
@_SpecialForm
def Optional(self, parameters):
    arg = _type_check(parameters, f\"\x7bself\x7d requires a single type.\")
    return Union[arg, type(None)]
@_LiteralSpecialForm
def Literal(self, *parameters):
    parameters = _flatten_literal_params(parameters)
    try:
        parameters = tuple(p for p, _ in _deduplicate(list((p, type(p)) for p in parameters)))
    except TypeError:
        pass
    return _LiteralGenericAlias(self, parameters)
@_SpecialForm
def TypeAlias(self, parameters):
    raise TypeError(f\"\x7bself\x7d is not subscriptable\")
@_SpecialForm
def Concatenate(self, parameters):
    if parameters == ():
        raise TypeError(\"Cannot take a Concatenate of no types.\")
    if not isinstance(parameters, tuple):
        parameters = (parameters,)
    if not (parameters[-1] is ... or isinstance(parameters[-1], ParamSpec)):
        raise TypeError(\"The last parameter to Concatenate should be a ParamSpec variable or ellipsis.\")
    msg = \"Concatenate[arg, ...]: each arg must be a type.\"
    parameters = (*(_type_check(p, msg) for p in parameters[:-1]), parameters[-1])
    return _ConcatenateGenericAlias(self, parameters)
@_SpecialForm
def TypeGuard(self, parameters):
    item = _type_check(parameters, f'\x7bself\x7d accepts only single type.')
    return _GenericAlias(self, (item,))
@_SpecialForm
def Required(self, parameters):
    item = _type_check(parameters, f'\x7bself._name\x7d accepts only a single type.')
    return _GenericAlias(self, (item,))
@_SpecialForm
def NotRequired(self, parameters):
    item = _type_check(parameters, f'\x7bself._name\x7d accepts only a single type.')
    return _GenericAlias(self, (item,))
@_SpecialForm
def Unpack(self, parameters):
    item = _type_check(parameters, f'\x7bself._name\x7d accepts only single type.')
    return _UnpackGenericAlias(origin=self, args=(item,))
class ForwardRef:
    def __init__(self, arg, is_argument=True, module=None, *, is_class=False):
        if not isinstance(arg, str):
            raise TypeError(f\"Forward reference must be a string -- got \x7barg!r\x7d\")
        self.__forward_arg__ = arg
        self.__forward_evaluated__ = False
        self.__forward_value__ = None
        self.__forward_is_argument__ = is_argument
        self.__forward_is_class__ = is_class
        self.__forward_module__ = module
    def _evaluate(self, globalns, localns, recursive_guard=frozenset()):
        if self.__forward_arg__ in recursive_guard:
            return self
        if not self.__forward_evaluated__ or localns is not globalns:
            if globalns is None and localns is None:
                globalns = localns = \x7b\x7d
            elif globalns is None:
                globalns = localns
            elif localns is None:
                localns = globalns
            type_ = _type_check(eval(self.__forward_arg__, globalns, localns),
                                \"Forward references must evaluate to types.\",
                                is_argument=self.__forward_is_argument__,
                                allow_special_forms=self.__forward_is_class__)
            self.__forward_value__ = _eval_type(type_, globalns, localns,
                                                recursive_guard | \x7bself.__forward_arg__\x7d)
            self.__forward_evaluated__ = True
        return self.__forward_value__
    def __eq__(self, other):
        if not isinstance(other, ForwardRef):
            return NotImplemented
        if self.__forward_evaluated__ and other.__forward_evaluated__:
            return (self.__forward_arg__ == other.__forward_arg__ and
                    self.__forward_value__ == other.__forward_value__)
        return (self.__forward_arg__ == other.__forward_arg__ and
                self.__forward_module__ == other.__forward_module__)
    def __hash__(self):
        return hash((self.__forward_arg__, self.__forward_module__))
    def __or__(self, other):
        return Union[self, other]
    def __ror__(self, other):
        return Union[other, self]
    def __repr__(self):
        if self.__forward_module__ is None:
            module_repr = ''
        else:
            module_repr = f', module=\x7bself.__forward_module__!r\x7d'
        return f'ForwardRef(\x7bself.__forward_arg__!r\x7d\x7bmodule_repr\x7d)'
def _eval_type(t, globalns, localns, recursive_guard=frozenset()):
    if isinstance(t, ForwardRef):
        return t._evaluate(globalns, localns, recursive_guard)
    if isinstance(t, (_GenericAlias, types.GenericAlias, types.UnionType)):
        ev_args = tuple(_eval_type(a, globalns, localns, recursive_guard) for a in t.__args__)
        if ev_args == t.__args__:
            return t
        if isinstance(t, types.GenericAlias):
            return types.GenericAlias(t.__origin__, ev_args)
        if isinstance(t, types.UnionType):
            result = ev_args[0]
            for a in ev_args[1:]:
                result = result | a
            return result
        return t.copy_with(ev_args)
    return t
class _BoundVarianceMixin:
    def __or__(self, right):
        return Union[self, right]
    def __ror__(self, left):
        return Union[left, self]
    def __repr__(self):
        if self.__covariant__:
            prefix = '+'
        elif self.__contravariant__:
            prefix = '-'
        else:
            prefix = '~'
        return prefix + self.__name__
class TypeVar(_BoundVarianceMixin):
    def __init__(self, name, *constraints, bound=None, covariant=False, contravariant=False):
        self.__name__ = name
        if covariant and contravariant:
            raise ValueError(\"Bivariant types are not supported.\")
        self.__covariant__ = bool(covariant)
        self.__contravariant__ = bool(contravariant)
        if constraints and bound is not None:
            raise TypeError(\"Constraints cannot be combined with bound=...\")
        if constraints and len(constraints) == 1:
            raise TypeError(\"A single constraint is not allowed\")
        msg = \"TypeVar(name, constraint, ...): constraints must be types.\"
        self.__constraints__ = tuple(_type_check(t, msg) for t in constraints)
        if bound is not None:
            self.__bound__ = _type_check(bound, \"Bound must be a type.\")
        else:
            self.__bound__ = None
        self.__module__ = _caller()
    def __typing_subst__(self, arg):
        msg = \"Parameters to generic types must be types.\"
        arg = _type_check(arg, msg, is_argument=True)
        if (isinstance(arg, _GenericAlias) and arg.__origin__ is Unpack) or (
                isinstance(arg, types.GenericAlias) and getattr(arg, '__unpacked__', False)):
            raise TypeError(f\"\x7barg\x7d is not valid as type argument\")
        return arg
    def __mro_entries__(self, bases):
        raise TypeError(\"Cannot subclass an instance of TypeVar\")
class TypeVarTuple:
    def __init__(self, name):
        self.__name__ = name
        self.__module__ = _caller()
    def __iter__(self):
        yield Unpack[self]
    def __repr__(self):
        return self.__name__
    def __typing_subst__(self, arg):
        raise TypeError(\"Substitution of bare TypeVarTuple is not supported\")
    def __mro_entries__(self, bases):
        raise TypeError(\"Cannot subclass an instance of TypeVarTuple\")
class ParamSpecArgs:
    def __init__(self, origin):
        self.__origin__ = origin
    def __repr__(self):
        return f\"\x7bself.__origin__.__name__\x7d.args\"
    def __eq__(self, other):
        if not isinstance(other, ParamSpecArgs):
            return NotImplemented
        return self.__origin__ == other.__origin__
class ParamSpecKwargs:
    def __init__(self, origin):
        self.__origin__ = origin
    def __repr__(self):
        return f\"\x7bself.__origin__.__name__\x7d.kwargs\"
    def __eq__(self, other):
        if not isinstance(other, ParamSpecKwargs):
            return NotImplemented
        return self.__origin__ == other.__origin__
class ParamSpec(_BoundVarianceMixin):
    @property
    def args(self):
        return ParamSpecArgs(self)
    @property
    def kwargs(self):
        return ParamSpecKwargs(self)
    def __init__(self, name, *, bound=None, covariant=False, contravariant=False):
        self.__name__ = name
        self.__covariant__ = bool(covariant)
        self.__contravariant__ = bool(contravariant)
        if bound is not None:
            self.__bound__ = _type_check(bound, \"Bound must be a type.\")
        else:
            self.__bound__ = None
        self.__module__ = _caller()
    def __typing_subst__(self, arg):
        if isinstance(arg, (list, tuple)):
            arg = tuple(_type_check(a, \"Expected a type.\") for a in arg)
        elif not _is_param_expr(arg):
            raise TypeError(f\"Expected a list of types, an ellipsis, ParamSpec, or Concatenate. Got \x7barg\x7d\")
        return arg
    def __mro_entries__(self, bases):
        raise TypeError(\"Cannot subclass an instance of ParamSpec\")
def _is_dunder(attr):
    return attr.startswith('__') and attr.endswith('__')
class _BaseGenericAlias:
    def __init__(self, origin, *, inst=True, name=None):
        self._inst = inst
        self._name = name
        self.__origin__ = origin
    def __call__(self, *args, **kwargs):
        if not self._inst:
            raise TypeError(f\"Type \x7bself._name\x7d cannot be instantiated; \"
                            f\"use \x7bself.__origin__.__name__\x7d() instead\")
        result = self.__origin__(*args, **kwargs)
        try:
            result.__orig_class__ = self
        except AttributeError:
            pass
        return result
    def __mro_entries__(self, bases):
        res = []
        if self.__origin__ not in bases:
            res.append(self.__origin__)
        i = bases.index(self)
        for b in bases[i + 1:]:
            if isinstance(b, _BaseGenericAlias) or issubclass(b, Generic):
                break
        else:
            res.append(Generic)
        return tuple(res)
    def __getattr__(self, attr):
        if attr in \x7b'__name__', '__qualname__'\x7d:
            return self._name or self.__origin__.__name__
        if not _is_dunder(attr):
            return getattr(self.__origin__, attr)
        raise AttributeError(attr)
    def __instancecheck__(self, obj):
        return self.__subclasscheck__(type(obj))
    def __subclasscheck__(self, cls):
        raise TypeError(\"Subscripted generics cannot be used with class and instance checks\")
class _GenericAlias(_BaseGenericAlias):
    def __init__(self, origin, args, *, inst=True, name=None):
        super().__init__(origin, inst=inst, name=name)
        if not isinstance(args, tuple):
            args = (args,)
        self.__args__ = tuple(... if a is _TypingEllipsis else a for a in args)
        self.__parameters__ = _collect_parameters(args)
        if not name:
            self.__module__ = origin.__module__
    def __eq__(self, other):
        if not isinstance(other, _GenericAlias):
            return NotImplemented
        return (self.__origin__ == other.__origin__
                and self.__args__ == other.__args__)
    def __hash__(self):
        return hash((self.__origin__, self.__args__))
    def __or__(self, right):
        return Union[self, right]
    def __ror__(self, left):
        return Union[left, self]
    def __getitem__(self, args):
        if self.__origin__ in (Generic, Protocol):
            raise TypeError(f\"Cannot subscript already-subscripted \x7bself\x7d\")
        if not self.__parameters__:
            raise TypeError(f\"\x7bself\x7d is not a generic class\")
        if not isinstance(args, tuple):
            args = (args,)
        args = tuple(_type_convert(p) for p in args)
        params = self.__parameters__
        if len(args) != len(params):
            raise TypeError(f\"Too \x7b'many' if len(args) > len(params) else 'few'\x7d arguments for \x7bself\x7d;\"
                            f\" actual \x7blen(args)\x7d, expected \x7blen(params)\x7d\")
        subst = dict(zip(params, [p.__typing_subst__(a) for p, a in zip(params, args)]))
        new_args = []
        for old_arg in self.__args__:
            if hasattr(old_arg, '__typing_subst__'):
                new_args.append(subst[old_arg])
            else:
                subparams = getattr(old_arg, '__parameters__', ())
                if subparams and not isinstance(old_arg, type):
                    new_args.append(old_arg[tuple(subst[x] for x in subparams)])
                else:
                    new_args.append(old_arg)
        return self.copy_with(tuple(new_args))
    def copy_with(self, args):
        return self.__class__(self.__origin__, args, name=self._name, inst=self._inst)
    def __repr__(self):
        if self._name:
            name = 'typing.' + self._name
        else:
            name = _type_repr(self.__origin__)
        if self.__args__:
            args = \", \".join([_type_repr(a) for a in self.__args__])
        else:
            args = \"()\"
        return f'\x7bname\x7d[\x7bargs\x7d]'
    def __mro_entries__(self, bases):
        if isinstance(self.__origin__, _SpecialForm):
            raise TypeError(f\"Cannot subclass \x7bself!r\x7d\")
        if self._name:
            return super().__mro_entries__(bases)
        if self.__origin__ is Generic:
            if Protocol in bases:
                return ()
            i = bases.index(self)
            for b in bases[i + 1:]:
                if isinstance(b, _BaseGenericAlias) and b is not self:
                    return ()
        return (self.__origin__,)
    def __iter__(self):
        yield Unpack[self]
class _SpecialGenericAlias(_BaseGenericAlias):
    def __init__(self, origin, nparams, *, inst=True, name=None):
        if name is None:
            name = origin.__name__
        super().__init__(origin, inst=inst, name=name)
        self._nparams = nparams
    def __getitem__(self, params):
        if not isinstance(params, tuple):
            params = (params,)
        msg = \"Parameters to generic types must be types.\"
        params = tuple(_type_check(p, msg) for p in params)
        _check_generic(self, params, self._nparams)
        return self.copy_with(params)
    def copy_with(self, params):
        return _GenericAlias(self.__origin__, params, name=self._name, inst=self._inst)
    def __repr__(self):
        return 'typing.' + self._name
    def __subclasscheck__(self, cls):
        if isinstance(cls, _SpecialGenericAlias):
            return issubclass(cls.__origin__, self.__origin__)
        if not isinstance(cls, _GenericAlias):
            return issubclass(cls, self.__origin__)
        return super().__subclasscheck__(cls)
    def __or__(self, right):
        return Union[self, right]
    def __ror__(self, left):
        return Union[left, self]
class _CallableGenericAlias(_GenericAlias):
    def __repr__(self):
        args = self.__args__
        if len(args) == 2 and _is_param_expr(args[0]):
            return super().__repr__()
        return (f'typing.Callable'
                f'[[\x7b\", \".join([_type_repr(a) for a in args[:-1]])\x7d], '
                f'\x7b_type_repr(args[-1])\x7d]')
    def copy_with(self, params):
        return _CallableGenericAlias(self.__origin__, params, name=self._name, inst=self._inst)
class _CallableType(_SpecialGenericAlias):
    def copy_with(self, params):
        return _CallableGenericAlias(self.__origin__, params, name=self._name, inst=self._inst)
    def __getitem__(self, params):
        if not isinstance(params, tuple) or len(params) != 2:
            raise TypeError(\"Callable must be used as Callable[[arg, ...], result].\")
        args, result = params
        if isinstance(args, list):
            params = (tuple(args), result)
        else:
            params = (args, result)
        return self.__getitem_inner__(params)
    def __getitem_inner__(self, params):
        args, result = params
        msg = \"Callable[args, result]: result must be a type.\"
        result = _type_check(result, msg)
        if args is Ellipsis:
            return self.copy_with((_TypingEllipsis, result))
        if not isinstance(args, tuple):
            args = (args,)
        args = tuple(_type_convert(arg) for arg in args)
        params = args + (result,)
        return self.copy_with(params)
class _TupleType(_SpecialGenericAlias):
    def __getitem__(self, params):
        if not isinstance(params, tuple):
            params = (params,)
        if len(params) >= 2 and params[-1] is ...:
            msg = \"Tuple[t, ...]: t must be a type.\"
            params = tuple(_type_check(p, msg) for p in params[:-1])
            return self.copy_with((*params, _TypingEllipsis))
        msg = \"Tuple[t0, t1, ...]: each t must be a type.\"
        params = tuple(_type_check(p, msg) for p in params)
        return self.copy_with(params)
class _UnionGenericAlias(_GenericAlias):
    def copy_with(self, params):
        return Union[params]
    def __eq__(self, other):
        if not isinstance(other, (_UnionGenericAlias, types.UnionType)):
            return NotImplemented
        return set(self.__args__) == set(other.__args__)
    def __hash__(self):
        return hash(frozenset(self.__args__))
    def __repr__(self):
        args = self.__args__
        if len(args) == 2:
            if args[0] is type(None):
                return f'typing.Optional[\x7b_type_repr(args[1])\x7d]'
            elif args[1] is type(None):
                return f'typing.Optional[\x7b_type_repr(args[0])\x7d]'
        return super().__repr__()
    def __instancecheck__(self, obj):
        return self.__subclasscheck__(type(obj))
    def __subclasscheck__(self, cls):
        for arg in self.__args__:
            if issubclass(cls, arg):
                return True
        return False
class _LiteralGenericAlias(_GenericAlias):
    def __eq__(self, other):
        if not isinstance(other, _LiteralGenericAlias):
            return NotImplemented
        return set((p, type(p)) for p in self.__args__) == set((p, type(p)) for p in other.__args__)
    def __hash__(self):
        return hash(frozenset((p, type(p)) for p in self.__args__))
class _ConcatenateGenericAlias(_GenericAlias):
    def copy_with(self, params):
        if isinstance(params[-1], (list, tuple)):
            return (*params[:-1], *params[-1])
        if isinstance(params[-1], _ConcatenateGenericAlias):
            params = (*params[:-1], *params[-1].__args__)
        return super().copy_with(params)
class _UnpackGenericAlias(_GenericAlias):
    def __init__(self, origin, args, *, inst=True, name=None):
        super().__init__(origin, args, inst=inst, name=name)
    def __repr__(self):
        return '*' + repr(self.__args__[0])
class _TypingEllipsis:
    pass
class Generic:
    __slots__ = ()
    _is_protocol = False
    def __class_getitem__(cls, params):
        if not isinstance(params, tuple):
            params = (params,)
        params = tuple(_type_convert(p) for p in params)
        if cls in (Generic, Protocol):
            if not params:
                raise TypeError(f\"Parameter list to \x7bcls.__qualname__\x7d[...] cannot be empty\")
            if not all(_is_typevar_like(p) for p in params):
                raise TypeError(
                    f\"Parameters to \x7bcls.__name__\x7d[...] must all be type variables \"
                    f\"or parameter specification variables.\")
            if len(set(params)) != len(params):
                raise TypeError(f\"Parameters to \x7bcls.__name__\x7d[...] must all be unique\")
        else:
            _check_generic(cls, params, len(cls.__parameters__))
        return _GenericAlias(cls, params)
    def __init_subclass__(cls, *args, **kwargs):
        super().__init_subclass__(*args, **kwargs)
        tvars = []
        if '__orig_bases__' in cls.__dict__:
            error = Generic in cls.__orig_bases__
        else:
            error = (Generic in cls.__bases__ and cls.__name__ != 'Protocol'
                     and type(cls) != _TypedDictMeta)
        if error:
            raise TypeError(\"Cannot inherit from plain Generic\")
        if '__orig_bases__' in cls.__dict__:
            tvars = _collect_parameters(cls.__orig_bases__)
            gvars = None
            for base in cls.__orig_bases__:
                if isinstance(base, _GenericAlias) and base.__origin__ is Generic:
                    if gvars is not None:
                        raise TypeError(\"Cannot inherit from Generic[...] multiple types.\")
                    gvars = base.__parameters__
            if gvars is not None:
                tvarset = set(tvars)
                gvarset = set(gvars)
                if not tvarset <= gvarset:
                    s_vars = ', '.join(str(t) for t in tvars if t not in gvarset)
                    s_args = ', '.join(str(g) for g in gvars)
                    raise TypeError(f\"Some type variables (\x7bs_vars\x7d) are\"
                                    f\" not listed in Generic[\x7bs_args\x7d]\")
                tvars = gvars
        cls.__parameters__ = tuple(tvars)
_TYPING_INTERNALS = ['__parameters__', '__orig_bases__', '__orig_class__', '_is_protocol',
                     '_is_runtime_protocol']
_SPECIAL_NAMES = ['__abstractmethods__', '__annotations__', '__dict__', '__doc__', '__init__',
                  '__module__', '__new__', '__slots__', '__subclasshook__', '__weakref__',
                  '__class_getitem__', '__qualname__', '__init_subclass__']
EXCLUDED_ATTRIBUTES = _TYPING_INTERNALS + _SPECIAL_NAMES + ['_MutableMapping__marker']
def _get_protocol_attrs(cls):
    attrs = set()
    for base in cls.__mro__[:-1]:
        if base.__name__ in ('Protocol', 'Generic'):
            continue
        annotations = getattr(base, '__annotations__', \x7b\x7d)
        for attr in list(base.__dict__.keys()) + list(annotations.keys()):
            if not attr.startswith('_abc_') and attr not in EXCLUDED_ATTRIBUTES:
                attrs.add(attr)
    return attrs
def _is_callable_members_only(cls):
    return all(callable(getattr(cls, attr, None)) for attr in _get_protocol_attrs(cls))
def _no_init_or_replace_init(self, *args, **kwargs):
    cls = type(self)
    if cls._is_protocol:
        raise TypeError('Protocols cannot be instantiated')
def _allow_reckless_class_checks(depth=3):
    return _abc_module._nesting[0] > 1
_PROTO_ALLOWLIST = \x7b
    'collections.abc': [
        'Callable', 'Awaitable', 'Iterable', 'Iterator', 'AsyncIterable',
        'Hashable', 'Sized', 'Container', 'Collection', 'Reversible',
    ],
    'contextlib': ['AbstractContextManager', 'AbstractAsyncContextManager'],
\x7d
class _ProtocolMeta(ABCMeta):
    def __instancecheck__(cls, instance):
        if (getattr(cls, '_is_protocol', False) and
                not getattr(cls, '_is_runtime_protocol', False)):
            raise TypeError(\"Instance and class checks can only be used with\"
                            \" @runtime_checkable protocols\")
        if ((not getattr(cls, '_is_protocol', False) or
                _is_callable_members_only(cls)) and
                issubclass(instance.__class__, cls)):
            return True
        if cls._is_protocol:
            if all(hasattr(instance, attr) and
                    (not callable(getattr(cls, attr, None)) or
                     getattr(instance, attr) is not None)
                    for attr in _get_protocol_attrs(cls)):
                return True
        return super().__instancecheck__(instance)
class Protocol(Generic, metaclass=_ProtocolMeta):
    __slots__ = ()
    _is_protocol = True
    _is_runtime_protocol = False
    def __init_subclass__(cls, *args, **kwargs):
        super().__init_subclass__(*args, **kwargs)
        if not cls.__dict__.get('_is_protocol', False):
            cls._is_protocol = any(b is Protocol for b in cls.__bases__)
        def _proto_hook(other):
            if not cls.__dict__.get('_is_protocol', False):
                return NotImplemented
            if not getattr(cls, '_is_runtime_protocol', False):
                if _allow_reckless_class_checks():
                    return NotImplemented
                raise TypeError(\"Instance and class checks can only be used with\"
                                \" @runtime_checkable protocols\")
            if not _is_callable_members_only(cls):
                if _allow_reckless_class_checks():
                    return NotImplemented
                raise TypeError(\"Protocols with non-method members\"
                                \" don't support issubclass()\")
            if not isinstance(other, type):
                raise TypeError('issubclass() arg 1 must be a class')
            for attr in _get_protocol_attrs(cls):
                for base in other.__mro__:
                    try:
                        d = base.__dict__
                    except AttributeError:
                        if hasattr(base, attr):
                            if getattr(base, attr) is None:
                                return NotImplemented
                            break
                        continue
                    if attr in d:
                        if d[attr] is None:
                            return NotImplemented
                        break
                    annotations = getattr(base, '__annotations__', \x7b\x7d)
                    if (isinstance(annotations, dict) and attr in annotations and
                            issubclass(other, Generic) and other._is_protocol):
                        break
                else:
                    return NotImplemented
            return True
        if '__subclasshook__' not in cls.__dict__:
            cls.__subclasshook__ = _proto_hook
        if not cls._is_protocol:
            return
        for base in cls.__bases__:
            if not (base in (object, Generic) or
                    base.__module__ in _PROTO_ALLOWLIST and
                    base.__name__ in _PROTO_ALLOWLIST[base.__module__] or
                    issubclass(base, Generic) and base._is_protocol):
                raise TypeError('Protocols can only inherit from other'
                                ' protocols, got %r' % base)
        if '__init__' not in cls.__dict__:
            cls.__init__ = _no_init_or_replace_init
def runtime_checkable(cls):
    if not issubclass(cls, Generic) or not cls._is_protocol:
        raise TypeError('@runtime_checkable can be only applied to protocol classes,'
                        ' got %r' % cls)
    cls._is_runtime_protocol = True
    return cls
class _AnnotatedAlias(_GenericAlias):
    def __init__(self, origin, metadata):
        if isinstance(origin, _AnnotatedAlias):
            metadata = origin.__metadata__ + metadata
            origin = origin.__origin__
        super().__init__(origin, origin)
        self.__metadata__ = metadata
    def copy_with(self, params):
        assert len(params) == 1
        new_type = params[0]
        return _AnnotatedAlias(new_type, self.__metadata__)
    def __repr__(self):
        return \"typing.Annotated[\x7b\x7d, \x7b\x7d]\".format(
            _type_repr(self.__origin__),
            \", \".join(repr(a) for a in self.__metadata__))
    def __eq__(self, other):
        if not isinstance(other, _AnnotatedAlias):
            return NotImplemented
        return (self.__origin__ == other.__origin__
                and self.__metadata__ == other.__metadata__)
    def __hash__(self):
        return hash((self.__origin__, self.__metadata__))
    def __getattr__(self, attr):
        if attr in \x7b'__name__', '__qualname__'\x7d:
            return 'Annotated'
        return super().__getattr__(attr)
    def __mro_entries__(self, bases):
        return (self.__origin__,)
class Annotated:
    __slots__ = ()
    def __new__(cls, *args, **kwargs):
        raise TypeError(\"Type Annotated cannot be instantiated.\")
    def __class_getitem__(cls, params):
        if not isinstance(params, tuple) or len(params) < 2:
            raise TypeError(\"Annotated[...] should be used \"
                            \"with at least two arguments (a type and an \"
                            \"annotation).\")
        msg = \"Annotated[t, ...]: t must be a type.\"
        origin = _type_check(params[0], msg, allow_special_forms=True)
        metadata = tuple(params[1:])
        return _AnnotatedAlias(origin, metadata)
    def __init_subclass__(cls, *args, **kwargs):
        raise TypeError(\"Cannot subclass \x7b\x7d.Annotated\".format(cls.__module__))
def cast(typ, val):
    return val
def assert_type(val, typ, /):
    return val
def get_type_hints(obj, globalns=None, localns=None, include_extras=False):
    if isinstance(obj, type):
        hints = \x7b\x7d
        for base in reversed(obj.__mro__):
            try:
                ann = base.__dict__.get('__annotations__', \x7b\x7d)
            except AttributeError:
                continue
            if ann is None:
                ann = \x7b\x7d
            base_globals = \x7b\x7d if globalns is None else globalns
            base_locals = dict(vars(base)) if localns is None else localns
            if localns is None and globalns is None:
                base_globals, base_locals = base_locals, base_globals
            for name, value in ann.items():
                if value is None:
                    value = type(None)
                if isinstance(value, str):
                    value = ForwardRef(value, is_argument=False, is_class=True)
                value = _eval_type(value, base_globals, base_locals)
                hints[name] = value
        return hints if include_extras else \x7bk: _strip_annotations(t) for k, t in hints.items()\x7d
    if globalns is None:
        globalns = getattr(obj, '__globals__', \x7b\x7d)
        if localns is None:
            localns = globalns
    elif localns is None:
        localns = globalns
    hints = getattr(obj, '__annotations__', None)
    if hints is None:
        if isinstance(obj, (types.FunctionType, types.BuiltinFunctionType, types.MethodType, types.ModuleType)):
            return \x7b\x7d
        raise TypeError('\x7b!r\x7d is not a module, class, method, or function.'.format(obj))
    hints = dict(hints)
    for name, value in hints.items():
        if value is None:
            value = type(None)
        if isinstance(value, str):
            value = ForwardRef(value, is_argument=not isinstance(obj, types.ModuleType), is_class=False)
        hints[name] = _eval_type(value, globalns, localns)
    return hints if include_extras else \x7bk: _strip_annotations(t) for k, t in hints.items()\x7d
def _strip_annotations(t):
    if isinstance(t, _AnnotatedAlias):
        return _strip_annotations(t.__origin__)
    if isinstance(t, _GenericAlias) and t.__origin__ in (Required, NotRequired):
        return _strip_annotations(t.__args__[0])
    if isinstance(t, _GenericAlias):
        stripped_args = tuple(_strip_annotations(a) for a in t.__args__)
        if stripped_args == t.__args__:
            return t
        return t.copy_with(stripped_args)
    if isinstance(t, types.GenericAlias):
        stripped_args = tuple(_strip_annotations(a) for a in t.__args__)
        if stripped_args == t.__args__:
            return t
        return types.GenericAlias(t.__origin__, stripped_args)
    return t
def get_origin(tp):
    if isinstance(tp, _AnnotatedAlias):
        return Annotated
    if isinstance(tp, (_BaseGenericAlias, types.GenericAlias, ParamSpecArgs, ParamSpecKwargs)):
        return tp.__origin__
    if tp is Generic:
        return Generic
    if isinstance(tp, types.UnionType):
        return types.UnionType
    return None
def get_args(tp):
    if isinstance(tp, _AnnotatedAlias):
        return (tp.__origin__,) + tp.__metadata__
    if isinstance(tp, (_GenericAlias, types.GenericAlias)):
        res = tp.__args__
        if (tp.__origin__ is collections.abc.Callable
                and not (len(res) == 2 and _is_param_expr(res[0]))):
            res = (list(res[:-1]), res[-1])
        return res
    if isinstance(tp, types.UnionType):
        return tp.__args__
    return ()
def is_typeddict(tp):
    return isinstance(tp, _TypedDictMeta)
def assert_never(arg, /):
    value = repr(arg)
    if len(value) > 100:
        value = value[:100] + '...'
    raise AssertionError(f\"Expected code to be unreachable, but got: \x7bvalue\x7d\")
def no_type_check(arg):
    if isinstance(arg, type):
        for key in dir(arg):
            obj = getattr(arg, key)
            if (not hasattr(obj, '__qualname__') or obj.__qualname__ != f'\x7barg.__qualname__\x7d.\x7bobj.__name__\x7d'
                    or getattr(obj, '__module__', None) != arg.__module__):
                continue
            if isinstance(obj, types.FunctionType):
                obj.__no_type_check__ = True
    try:
        arg.__no_type_check__ = True
    except TypeError:
        pass
    return arg
def no_type_check_decorator(decorator):
    def wrapped_decorator(*args, **kwds):
        func = decorator(*args, **kwds)
        func = no_type_check(func)
        return func
    return wrapped_decorator
def _overload_dummy(*args, **kwds):
    raise NotImplementedError(
        \"You should not call an overloaded function. \"
        \"A series of @overload-decorated functions \"
        \"outside a stub module should always be followed \"
        \"by an implementation that is not @overload-ed.\")
_overload_registry = \x7b\x7d
def overload(func):
    _overload_registry.setdefault(getattr(func, '__qualname__', None), []).append(func)
    return _overload_dummy
def get_overloads(func):
    return list(_overload_registry.get(getattr(func, '__qualname__', None), []))
def clear_overloads():
    _overload_registry.clear()
def final(f):
    try:
        f.__final__ = True
    except (AttributeError, TypeError):
        pass
    return f
T = TypeVar('T')
KT = TypeVar('KT')
VT = TypeVar('VT')
T_co = TypeVar('T_co', covariant=True)
V_co = TypeVar('V_co', covariant=True)
VT_co = TypeVar('VT_co', covariant=True)
T_contra = TypeVar('T_contra', contravariant=True)
CT_co = TypeVar('CT_co', covariant=True, bound=type)
AnyStr = TypeVar('AnyStr', bytes, str)
for _v in (T, KT, VT, T_co, V_co, VT_co, T_contra, CT_co, AnyStr):
    _v.__module__ = 'typing'
del _v
_alias = _SpecialGenericAlias
Hashable = _alias(collections.abc.Hashable, 0)
Awaitable = _alias(collections.abc.Awaitable, 1)
Coroutine = _alias(collections.abc.Coroutine, 3)
AsyncIterable = _alias(collections.abc.AsyncIterable, 1)
AsyncIterator = _alias(collections.abc.AsyncIterator, 1)
Iterable = _alias(collections.abc.Iterable, 1)
Iterator = _alias(collections.abc.Iterator, 1)
Reversible = _alias(collections.abc.Reversible, 1)
Sized = _alias(collections.abc.Sized, 0)
Container = _alias(collections.abc.Container, 1)
Collection = _alias(collections.abc.Collection, 1)
Callable = _CallableType(collections.abc.Callable, 2)
AbstractSet = _alias(collections.abc.Set, 1, name='AbstractSet')
MutableSet = _alias(collections.abc.MutableSet, 1)
Mapping = _alias(collections.abc.Mapping, 2)
MutableMapping = _alias(collections.abc.MutableMapping, 2)
Sequence = _alias(collections.abc.Sequence, 1)
MutableSequence = _alias(collections.abc.MutableSequence, 1)
ByteString = _alias(collections.abc.ByteString, 0)
Tuple = _TupleType(tuple, -1, inst=False, name='Tuple')
List = _alias(list, 1, inst=False, name='List')
Deque = _alias(collections.deque, 1, name='Deque')
Set = _alias(set, 1, inst=False, name='Set')
FrozenSet = _alias(frozenset, 1, inst=False, name='FrozenSet')
MappingView = _alias(collections.abc.MappingView, 1)
KeysView = _alias(collections.abc.KeysView, 1)
ItemsView = _alias(collections.abc.ItemsView, 2)
ValuesView = _alias(collections.abc.ValuesView, 1)
Dict = _alias(dict, 2, inst=False, name='Dict')
DefaultDict = _alias(collections.defaultdict, 2, name='DefaultDict')
OrderedDict = _alias(collections.OrderedDict, 2)
Counter = _alias(collections.Counter, 1)
ChainMap = _alias(collections.ChainMap, 2)
Generator = _alias(collections.abc.Generator, 3)
AsyncGenerator = _alias(collections.abc.AsyncGenerator, 2)
Type = _alias(type, 1, inst=False, name='Type')
Pattern = _alias(stdlib_re.Pattern, 1)
Match = _alias(stdlib_re.Match, 1)
@runtime_checkable
class SupportsInt(Protocol):
    __slots__ = ()
    @abstractmethod
    def __int__(self) -> int:
        pass
@runtime_checkable
class SupportsFloat(Protocol):
    __slots__ = ()
    @abstractmethod
    def __float__(self) -> float:
        pass
@runtime_checkable
class SupportsComplex(Protocol):
    __slots__ = ()
    @abstractmethod
    def __complex__(self) -> complex:
        pass
@runtime_checkable
class SupportsBytes(Protocol):
    __slots__ = ()
    @abstractmethod
    def __bytes__(self) -> bytes:
        pass
@runtime_checkable
class SupportsIndex(Protocol):
    __slots__ = ()
    @abstractmethod
    def __index__(self) -> int:
        pass
@runtime_checkable
class SupportsAbs(Protocol[T_co]):
    __slots__ = ()
    @abstractmethod
    def __abs__(self) -> T_co:
        pass
@runtime_checkable
class SupportsRound(Protocol[T_co]):
    __slots__ = ()
    @abstractmethod
    def __round__(self, ndigits: int = 0) -> T_co:
        pass
def _make_nmtuple(name, types, module, defaults=()):
    fields = [n for n, t in types]
    types = \x7bn: _type_check(t, f\"field \x7bn\x7d annotation must be a type\") for n, t in types\x7d
    nm_tpl = collections.namedtuple(name, fields, defaults=defaults, module=module)
    nm_tpl.__annotations__ = types
    return nm_tpl
_prohibited = frozenset(\x7b'__new__', '__init__', '__slots__', '__getnewargs__',
                         '_fields', '_field_defaults', '_make', '_replace', '_asdict', '_source'\x7d)
_special = frozenset(\x7b'__module__', '__name__', '__annotations__', '__qualname__'\x7d)
class NamedTupleMeta(type):
    def __new__(cls, typename, bases, ns):
        for base in bases:
            if base is not _NamedTuple and base is not Generic:
                raise TypeError('can only inherit from a NamedTuple type and Generic')
        types = ns.get('__annotations__', \x7b\x7d)
        default_names = []
        for field_name in types:
            if field_name in ns:
                default_names.append(field_name)
            elif default_names:
                raise TypeError(f\"Non-default namedtuple field \x7bfield_name\x7d \"
                                f\"cannot follow default field\"
                                f\"\x7b's' if len(default_names) > 1 else ''\x7d \"
                                f\"\x7b', '.join(default_names)\x7d\")
        nm_tpl = _make_nmtuple(typename, types.items(),
                               defaults=[ns[n] for n in default_names],
                               module=ns['__module__'])
        for key in ns:
            if key in _prohibited:
                raise AttributeError(\"Cannot overwrite NamedTuple attribute \" + key)
            elif key not in _special and key not in nm_tpl._fields:
                setattr(nm_tpl, key, ns[key])
        return nm_tpl
def NamedTuple(typename, fields=None, /, **kwargs):
    if fields is None:
        fields = kwargs.items()
    elif kwargs:
        raise TypeError(\"Either list of fields or keywords\"
                        \" can be provided to NamedTuple, not both\")
    return _make_nmtuple(typename, fields, module=_caller())
_NamedTuple = type.__new__(NamedTupleMeta, 'NamedTuple', (), \x7b\x7d)
def _namedtuple_mro_entries(bases):
    return (_NamedTuple,)
NamedTuple.__mro_entries__ = _namedtuple_mro_entries
class _TypedDictMeta(type):
    def __new__(cls, name, bases, ns, total=True):
        for base in bases:
            if type(base) is not _TypedDictMeta and base is not Generic:
                raise TypeError('cannot inherit from both a TypedDict type '
                                'and a non-TypedDict base class')
        tp_dict = type.__new__(_TypedDictMeta, name, (dict,), ns)
        annotations = \x7b\x7d
        own_annotations = ns.get('__annotations__', \x7b\x7d)
        msg = \"TypedDict('Name', \x7bf0: t0, f1: t1, ...\x7d); each t must be a type\"
        own_annotations = \x7bn: _type_check(tp, msg) for n, tp in own_annotations.items()\x7d
        required_keys = set()
        optional_keys = set()
        for base in bases:
            annotations.update(base.__dict__.get('__annotations__', \x7b\x7d))
            required_keys.update(base.__dict__.get('__required_keys__', ()))
            optional_keys.update(base.__dict__.get('__optional_keys__', ()))
        annotations.update(own_annotations)
        for annotation_key, annotation_type in own_annotations.items():
            annotation_origin = get_origin(annotation_type)
            if annotation_origin is Annotated:
                annotation_args = get_args(annotation_type)
                if annotation_args:
                    annotation_type = annotation_args[0]
                    annotation_origin = get_origin(annotation_type)
            if annotation_origin is Required:
                is_required = True
            elif annotation_origin is NotRequired:
                is_required = False
            else:
                is_required = total
            if is_required:
                required_keys.add(annotation_key)
            else:
                optional_keys.add(annotation_key)
        tp_dict.__annotations__ = annotations
        tp_dict.__required_keys__ = frozenset(required_keys)
        tp_dict.__optional_keys__ = frozenset(optional_keys)
        if '__total__' not in tp_dict.__dict__:
            tp_dict.__total__ = total
        return tp_dict
    __call__ = dict
    def __subclasscheck__(cls, other):
        raise TypeError('TypedDict does not support instance and class checks')
    __instancecheck__ = __subclasscheck__
def TypedDict(typename, fields=None, /, *, total=True, **kwargs):
    if fields is None:
        fields = kwargs
    elif kwargs:
        raise TypeError(\"TypedDict takes either a dict or keyword arguments,\"
                        \" but not both\")
    ns = \x7b'__annotations__': dict(fields)\x7d
    ns['__module__'] = _caller()
    return _TypedDictMeta(typename, (), ns, total=total)
_TypedDict = type.__new__(_TypedDictMeta, 'TypedDict', (), \x7b\x7d)
def _typeddict_mro_entries(bases):
    return (_TypedDict,)
TypedDict.__mro_entries__ = _typeddict_mro_entries
class NewType:
    def __init__(self, name, tp):
        self.__qualname__ = name
        if '.' in name:
            name = name.rpartition('.')[-1]
        self.__name__ = name
        self.__supertype__ = tp
        self.__module__ = _caller()
    def __mro_entries__(self, bases):
        superclass_name = self.__name__
        class Dummy:
            def __init_subclass__(cls):
                subclass_name = cls.__name__
                raise TypeError(
                    f\"Cannot subclass an instance of NewType. Perhaps you were looking for: \"
                    f\"`\x7bsubclass_name\x7d = NewType(\x7bsubclass_name!r\x7d, \x7bsuperclass_name\x7d)`\")
        return (Dummy,)
    def __repr__(self):
        return f'\x7bself.__module__\x7d.\x7bself.__qualname__\x7d'
    def __call__(self, x):
        return x
    def __or__(self, other):
        return Union[self, other]
    def __ror__(self, other):
        return Union[other, self]
Text = str
TYPE_CHECKING = False
class IO(Generic[AnyStr]):
    __slots__ = ()
    @property
    def mode(self) -> str:
        pass
    @property
    def name(self) -> str:
        pass
    @abstractmethod
    def close(self) -> None:
        pass
    @property
    def closed(self) -> bool:
        pass
    @abstractmethod
    def read(self, n: int = -1) -> AnyStr:
        pass
    @abstractmethod
    def write(self, s: AnyStr) -> int:
        pass
class BinaryIO(IO[bytes]):
    __slots__ = ()
class TextIO(IO[str]):
    __slots__ = ()
def reveal_type(obj, /):
    return obj
def dataclass_transform(*, eq_default=True, order_default=False, kw_only_default=False,
                        field_specifiers=(), **kwargs):
    def decorator(cls_or_fn):
        cls_or_fn.__dataclass_transform__ = \x7b
            \"eq_default\": eq_default,
            \"order_default\": order_default,
            \"kw_only_default\": kw_only_default,
            \"field_specifiers\": field_specifiers,
            \"kwargs\": kwargs,
        \x7d
        return cls_or_fn
    return decorator
"

end StubDoctest.Bundled
