/-!
# The bundled module `dataclasses`

Classes whose fields come from their annotations: the decorator writes their __init__, __repr__, comparisons and hash from the fields, and helpers read fields back, copy instances to dictionaries and tuples, and make such classes from a list of fields.
-/

namespace StubDoctest.Bundled

/-- The source of `dataclasses`. -/
def dataclasses : String := "\x69mport copy
\x69mport keyword
\x69mport types
__all__ = ['dataclass', 'field', 'Field', 'FrozenInstanceError', 'InitVar', 'KW_ONLY', 'MISSING',
           'fields', 'asdict', 'astuple', 'make_dataclass', 'replace', 'is_dataclass']
class FrozenInstanceError(AttributeError):
    pass
class _HAS_DEFAULT_FACTORY_CLASS:
    def __repr__(self):
        return '<factory>'
_HAS_DEFAULT_FACTORY = _HAS_DEFAULT_FACTORY_CLASS()
class _MISSING_TYPE:
    pass
MISSING = _MISSING_TYPE()
class _KW_ONLY_TYPE:
    pass
KW_ONLY = _KW_ONLY_TYPE()
_EMPTY_METADATA = types.MappingProxyType(\x7b\x7d)
class _FIELD_BASE:
    def __init__(self, name):
        self.name = name
    def __repr__(self):
        return self.name
_FIELD = _FIELD_BASE('_FIELD')
_FIELD_CLASSVAR = _FIELD_BASE('_FIELD_CLASSVAR')
_FIELD_INITVAR = _FIELD_BASE('_FIELD_INITVAR')
_FIELDS = '__dataclass_fields__'
_PARAMS = '__dataclass_params__'
_POST_INIT_NAME = '__post_init__'
class InitVar:
    __slots__ = ('type',)
    def __init__(self, type):
        self.type = type
    def __repr__(self):
        if isinstance(self.type, type):
            type_name = self.type.__name__
        else:
            type_name = repr(self.type)
        return f'dataclasses.InitVar[\x7btype_name\x7d]'
    def __class_getitem__(cls, type):
        return InitVar(type)
class Field:
    __slots__ = ('name', 'type', 'default', 'default_factory', 'repr', 'hash', 'init',
                 'compare', 'metadata', 'kw_only', '_field_type')
    def __init__(self, default, default_factory, init, repr, hash, compare, metadata, kw_only):
        self.name = None
        self.type = None
        self.default = default
        self.default_factory = default_factory
        self.init = init
        self.repr = repr
        self.hash = hash
        self.compare = compare
        self.metadata = (_EMPTY_METADATA if metadata is None else
                         types.MappingProxyType(metadata))
        self.kw_only = kw_only
        self._field_type = None
    def __repr__(self):
        return ('Field('
                f'name=\x7bself.name!r\x7d,'
                f'type=\x7bself.type!r\x7d,'
                f'default=\x7bself.default!r\x7d,'
                f'default_factory=\x7bself.default_factory!r\x7d,'
                f'init=\x7bself.init!r\x7d,'
                f'repr=\x7bself.repr!r\x7d,'
                f'hash=\x7bself.hash!r\x7d,'
                f'compare=\x7bself.compare!r\x7d,'
                f'metadata=\x7bself.metadata!r\x7d,'
                f'kw_only=\x7bself.kw_only!r\x7d,'
                f'_field_type=\x7bself._field_type\x7d'
                ')')
    def __set_name__(self, owner, name):
        func = getattr(type(self.default), '__set_name__', None)
        if func:
            func(self.default, owner, name)
class _DataclassParams:
    __slots__ = ('init', 'repr', 'eq', 'order', 'unsafe_hash', 'frozen')
    def __init__(self, init, repr, eq, order, unsafe_hash, frozen):
        self.init = init
        self.repr = repr
        self.eq = eq
        self.order = order
        self.unsafe_hash = unsafe_hash
        self.frozen = frozen
    def __repr__(self):
        return ('_DataclassParams('
                f'init=\x7bself.init!r\x7d,'
                f'repr=\x7bself.repr!r\x7d,'
                f'eq=\x7bself.eq!r\x7d,'
                f'order=\x7bself.order!r\x7d,'
                f'unsafe_hash=\x7bself.unsafe_hash!r\x7d,'
                f'frozen=\x7bself.frozen!r\x7d'
                ')')
def field(*, default=MISSING, default_factory=MISSING, init=True, repr=True,
          hash=None, compare=True, metadata=None, kw_only=MISSING):
    if default is not MISSING and default_factory is not MISSING:
        raise ValueError('cannot specify both default and default_factory')
    return Field(default, default_factory, init, repr, hash, compare, metadata, kw_only)
def _fields_in_init_order(fields):
    return (tuple(f for f in fields if f.init and not f.kw_only),
            tuple(f for f in fields if f.init and f.kw_only))
def _tuple_str(obj_name, fields):
    if not fields:
        return '()'
    return f'(\x7b\",\".join([f\"\x7bobj_name\x7d.\x7bf.name\x7d\" for f in fields])\x7d,)'
def _recursive_repr(user_function):
    repr_running = set()
    def wrapper(self):
        key = id(self)
        if key in repr_running:
            return '...'
        repr_running.add(key)
        try:
            result = user_function(self)
        finally:
            repr_running.discard(key)
        return result
    wrapper.__name__ = user_function.__name__
    wrapper.__qualname__ = user_function.__qualname__
    wrapper.__wrapped__ = user_function
    return wrapper
def _create_fn(name, args, body, *, globals=None, locals=None, return_type=MISSING):
    if locals is None:
        locals = \x7b\x7d
    return_annotation = ''
    if return_type is not MISSING:
        locals['_return_type'] = return_type
        return_annotation = '->_return_type'
    args = ','.join(args)
    body = '\\n'.join(f'  \x7bb\x7d' for b in body)
    txt = f' def \x7bname\x7d(\x7bargs\x7d)\x7breturn_annotation\x7d:\\n\x7bbody\x7d'
    local_vars = ', '.join(locals.keys())
    txt = f\"def __create_fn__(\x7blocal_vars\x7d):\\n\x7btxt\x7d\\n return \x7bname\x7d\"
    ns = \x7b\x7d
    exec(txt, globals, ns)
    return ns['__create_fn__'](**locals)
def _field_assign(frozen, name, value, self_name):
    if frozen:
        return f'__dataclass_builtins_object__.__setattr__(\x7bself_name\x7d,\x7bname!r\x7d,\x7bvalue\x7d)'
    return f'\x7bself_name\x7d.\x7bname\x7d=\x7bvalue\x7d'
def _field_init(f, frozen, globals, self_name, slots):
    default_name = f'_dflt_\x7bf.name\x7d'
    if f.default_factory is not MISSING:
        if f.init:
            globals[default_name] = f.default_factory
            value = (f'\x7bdefault_name\x7d() '
                     f'if \x7bf.name\x7d is _HAS_DEFAULT_FACTORY '
                     f'else \x7bf.name\x7d')
        else:
            globals[default_name] = f.default_factory
            value = f'\x7bdefault_name\x7d()'
    else:
        if f.init:
            if f.default is MISSING:
                value = f.name
            elif f.default is not MISSING:
                globals[default_name] = f.default
                value = f.name
        else:
            if slots and f.default is not MISSING:
                globals[default_name] = f.default
                value = default_name
            else:
                return None
    if f._field_type is _FIELD_INITVAR:
        return None
    return _field_assign(frozen, f.name, value, self_name)
def _init_param(f):
    if f.default is MISSING and f.default_factory is MISSING:
        default = ''
    elif f.default is not MISSING:
        default = f'=_dflt_\x7bf.name\x7d'
    elif f.default_factory is not MISSING:
        default = '=_HAS_DEFAULT_FACTORY'
    return f'\x7bf.name\x7d:_type_\x7bf.name\x7d\x7bdefault\x7d'
def _init_fn(fields, std_fields, kw_only_fields, frozen, has_post_init, self_name, globals,
             slots):
    seen_default = False
    for f in std_fields:
        if f.init:
            if not (f.default is MISSING and f.default_factory is MISSING):
                seen_default = True
            elif seen_default:
                raise TypeError(f'non-default argument \x7bf.name!r\x7d '
                                'follows default argument')
    locals = \x7bf'_type_\x7bf.name\x7d': f.type for f in fields\x7d
    locals.update(\x7b
        'MISSING': MISSING,
        '_HAS_DEFAULT_FACTORY': _HAS_DEFAULT_FACTORY,
        '__dataclass_builtins_object__': object,
    \x7d)
    body_lines = []
    for f in fields:
        line = _field_init(f, frozen, locals, self_name, slots)
        if line:
            body_lines.append(line)
    if has_post_init:
        params_str = ','.join(f.name for f in fields if f._field_type is _FIELD_INITVAR)
        body_lines.append(f'\x7bself_name\x7d.\x7b_POST_INIT_NAME\x7d(\x7bparams_str\x7d)')
    if not body_lines:
        body_lines = ['pass']
    _init_params = [_init_param(f) for f in std_fields]
    if kw_only_fields:
        _init_params += ['*']
        _init_params += [_init_param(f) for f in kw_only_fields]
    return _create_fn('__init__', [self_name] + _init_params, body_lines, locals=locals,
                      globals=globals, return_type=None)
def _repr_fn(fields, globals):
    fn = _create_fn('__repr__', ('self',),
                    ['return self.__class__.__qualname__ + f\"(' +
                     ', '.join([f\"\x7bf.name\x7d=\x7b\x7bself.\x7bf.name\x7d!r\x7d\x7d\" for f in fields]) + ')\"'],
                    globals=globals)
    return _recursive_repr(fn)
def _frozen_get_del_attr(cls, fields, globals):
    locals = \x7b'cls': cls, 'FrozenInstanceError': FrozenInstanceError\x7d
    condition = 'type(self) is cls'
    if fields:
        condition += ' or name in \x7b' + ', '.join(repr(f.name) for f in fields) + '\x7d'
    return (_create_fn('__setattr__', ('self', 'name', 'value'),
                       (f'if \x7bcondition\x7d:',
                        ' raise FrozenInstanceError(f\"cannot assign to field \x7bname!r\x7d\")',
                        f'super(cls, self).__setattr__(name, value)'),
                       locals=locals, globals=globals),
            _create_fn('__delattr__', ('self', 'name'),
                       (f'if \x7bcondition\x7d:',
                        ' raise FrozenInstanceError(f\"cannot delete field \x7bname!r\x7d\")',
                        f'super(cls, self).__delattr__(name)'),
                       locals=locals, globals=globals))
def _cmp_fn(name, op, self_tuple, other_tuple, globals):
    return _create_fn(name, ('self', 'other'),
                      ['if other.__class__ is self.__class__:',
                       f' return \x7bself_tuple\x7d\x7bop\x7d\x7bother_tuple\x7d',
                       'return NotImplemented'],
                      globals=globals)
def _hash_fn(fields, globals):
    self_tuple = _tuple_str('self', fields)
    return _create_fn('__hash__', ('self',), [f'return hash(\x7bself_tuple\x7d)'], globals=globals)
def _is_classvar(a_type):
    if isinstance(a_type, (type, str)):
        return False
    module = getattr(type(a_type), '__module__', None)
    if module != 'typing':
        return False
    \x69mport typing
    return (a_type is typing.ClassVar
            or (type(a_type) is typing._GenericAlias and a_type.__origin__ is typing.ClassVar))
def _is_initvar(a_type):
    return a_type is InitVar or type(a_type) is InitVar
def _is_kw_only(a_type):
    return a_type is KW_ONLY
def _get_field(cls, a_name, a_type, default_kw_only):
    default = getattr(cls, a_name, MISSING)
    if isinstance(default, Field):
        f = default
    else:
        if isinstance(default, types.MemberDescriptorType):
            default = MISSING
        f = field(default=default)
    f.name = a_name
    f.type = a_type
    f._field_type = _FIELD
    if _is_classvar(a_type):
        f._field_type = _FIELD_CLASSVAR
    elif _is_initvar(a_type):
        f._field_type = _FIELD_INITVAR
    if f._field_type in (_FIELD_CLASSVAR, _FIELD_INITVAR):
        if f.default_factory is not MISSING:
            raise TypeError(f'field \x7bf.name\x7d cannot have a default factory')
    if f._field_type in (_FIELD, _FIELD_INITVAR):
        if f.kw_only is MISSING:
            f.kw_only = default_kw_only
    else:
        if f.kw_only is not MISSING:
            raise TypeError(f'field \x7bf.name\x7d is a ClassVar but specifies kw_only')
    if f._field_type is _FIELD and f.default.__class__.__hash__ is None:
        raise ValueError(f'mutable default \x7btype(f.default)\x7d for field '
                         f'\x7bf.name\x7d is not allowed: use default_factory')
    return f
def _set_qualname(cls, value):
    if isinstance(value, types.FunctionType):
        value.__qualname__ = f\"\x7bcls.__qualname__\x7d.\x7bvalue.__name__\x7d\"
    return value
def _set_new_attribute(cls, name, value):
    if name in cls.__dict__:
        return True
    _set_qualname(cls, value)
    setattr(cls, name, value)
    return False
def _hash_set_none(cls, fields, globals):
    return None
def _hash_add(cls, fields, globals):
    flds = [f for f in fields if (f.compare if f.hash is None else f.hash)]
    return _set_qualname(cls, _hash_fn(flds, globals))
def _hash_exception(cls, fields, globals):
    raise TypeError(f'Cannot overwrite attribute __hash__ '
                    f'in class \x7bcls.__name__\x7d')
_hash_action = \x7b(False, False, False, False): None,
                (False, False, False, True): None,
                (False, False, True, False): None,
                (False, False, True, True): None,
                (False, True, False, False): _hash_set_none,
                (False, True, False, True): None,
                (False, True, True, False): _hash_add,
                (False, True, True, True): None,
                (True, False, False, False): _hash_add,
                (True, False, False, True): _hash_exception,
                (True, False, True, False): _hash_add,
                (True, False, True, True): _hash_exception,
                (True, True, False, False): _hash_add,
                (True, True, False, True): _hash_exception,
                (True, True, True, False): _hash_add,
                (True, True, True, True): _hash_exception,
                \x7d
def _process_class(cls, init, repr, eq, order, unsafe_hash, frozen, match_args, kw_only,
                   slots, weakref_slot):
    fields = \x7b\x7d
    globals = \x7b\x7d
    setattr(cls, _PARAMS, _DataclassParams(init, repr, eq, order, unsafe_hash, frozen))
    any_frozen_base = False
    has_dataclass_bases = False
    for b in cls.__mro__[-1:0:-1]:
        base_fields = getattr(b, _FIELDS, None)
        if base_fields is not None:
            has_dataclass_bases = True
            for f in base_fields.values():
                fields[f.name] = f
            if getattr(b, _PARAMS).frozen:
                any_frozen_base = True
    cls_annotations = cls.__dict__.get('__annotations__', \x7b\x7d)
    cls_fields = []
    KW_ONLY_seen = False
    for name, type in cls_annotations.items():
        if _is_kw_only(type):
            if KW_ONLY_seen:
                raise TypeError(f'\x7bname!r\x7d is KW_ONLY, but KW_ONLY '
                                'has already been specified')
            KW_ONLY_seen = True
            kw_only = True
        else:
            cls_fields.append(_get_field(cls, name, type, kw_only))
    for f in cls_fields:
        fields[f.name] = f
        if isinstance(getattr(cls, f.name, None), Field):
            if f.default is MISSING:
                delattr(cls, f.name)
            else:
                setattr(cls, f.name, f.default)
    for name, value in cls.__dict__.items():
        if isinstance(value, Field) and not name in cls_annotations:
            raise TypeError(f'\x7bname!r\x7d is a field but has no type annotation')
    if has_dataclass_bases:
        if any_frozen_base and not frozen:
            raise TypeError('cannot inherit non-frozen dataclass from a '
                            'frozen one')
        if not any_frozen_base and frozen:
            raise TypeError('cannot inherit frozen dataclass from a '
                            'non-frozen one')
    setattr(cls, _FIELDS, fields)
    class_hash = cls.__dict__.get('__hash__', MISSING)
    has_explicit_hash = not (class_hash is MISSING or
                             (class_hash is None and '__eq__' in cls.__dict__))
    if order and not eq:
        raise ValueError('eq must be true if order is true')
    all_init_fields = [f for f in fields.values() if f._field_type in (_FIELD, _FIELD_INITVAR)]
    (std_init_fields, kw_only_init_fields) = _fields_in_init_order(all_init_fields)
    if init:
        has_post_init = hasattr(cls, _POST_INIT_NAME)
        _set_new_attribute(cls, '__init__',
                           _init_fn(all_init_fields, std_init_fields, kw_only_init_fields,
                                    frozen, has_post_init,
                                    '__dataclass_self__' if 'self' in fields else 'self',
                                    globals, slots))
    field_list = [f for f in fields.values() if f._field_type is _FIELD]
    if repr:
        flds = [f for f in field_list if f.repr]
        _set_new_attribute(cls, '__repr__', _repr_fn(flds, globals))
    if eq:
        flds = [f for f in field_list if f.compare]
        self_tuple = _tuple_str('self', flds)
        other_tuple = _tuple_str('other', flds)
        _set_new_attribute(cls, '__eq__', _cmp_fn('__eq__', '==', self_tuple, other_tuple,
                                                  globals=globals))
    if order:
        flds = [f for f in field_list if f.compare]
        self_tuple = _tuple_str('self', flds)
        other_tuple = _tuple_str('other', flds)
        for name, op in [('__lt__', '<'), ('__le__', '<='), ('__gt__', '>'), ('__ge__', '>=')]:
            if _set_new_attribute(cls, name, _cmp_fn(name, op, self_tuple, other_tuple,
                                                     globals=globals)):
                raise TypeError(f'Cannot overwrite attribute \x7bname\x7d '
                                f'in class \x7bcls.__name__\x7d. Consider using '
                                'functools.total_ordering')
    if frozen:
        for fn in _frozen_get_del_attr(cls, field_list, globals):
            if _set_new_attribute(cls, fn.__name__, fn):
                raise TypeError(f'Cannot overwrite attribute \x7bfn.__name__\x7d '
                                f'in class \x7bcls.__name__\x7d')
    hash_action = _hash_action[bool(unsafe_hash), bool(eq), bool(frozen), has_explicit_hash]
    if hash_action:
        cls.__hash__ = hash_action(cls, field_list, globals)
    if not getattr(cls, '__doc__'):
        if not init:
            std_init_fields, kw_only_init_fields = (), ()
        params = []
        for f in std_init_fields:
            params.append(_doc_param(f))
        if kw_only_init_fields:
            params.append('*')
            params.extend(_doc_param(f) for f in kw_only_init_fields)
        cls.__doc__ = cls.__name__ + '(' + ', '.join(params) + ')'
    if match_args:
        _set_new_attribute(cls, '__match_args__', tuple(f.name for f in std_init_fields))
    if slots:
        cls = _add_slots(cls, frozen, weakref_slot)
    return cls
def _doc_type(t):
    if getattr(t, '__module__', None) == 'typing':
        return repr(t).replace('typing.', '')
    if isinstance(t, types.GenericAlias):
        return str(t)
    if isinstance(t, type):
        if t.__module__ == 'builtins':
            return t.__qualname__
        return f'\x7bt.__module__\x7d.\x7bt.__qualname__\x7d'
    return repr(t)
def _doc_param(f):
    text = f'\x7bf.name\x7d: \x7b_doc_type(f.type)\x7d'
    if f.default is not MISSING:
        text += f' = \x7bf.default!r\x7d'
    elif f.default_factory is not MISSING:
        text += ' = <factory>'
    return text
def _add_slots(cls, is_frozen, weakref_slot):
    cls_dict = dict(cls.__dict__)
    field_names = tuple(f.name for f in fields(cls))
    cls_dict['__slots__'] = field_names
    for field_name in field_names:
        cls_dict.pop(field_name, None)
    cls_dict.pop('__dict__', None)
    cls_dict.pop('__weakref__', None)
    qualname = getattr(cls, '__qualname__', None)
    cls = type(cls)(cls.__name__, cls.__bases__, cls_dict)
    if qualname is not None:
        cls.__qualname__ = qualname
    return cls
def dataclass(cls=None, /, *, init=True, repr=True, eq=True, order=False,
              unsafe_hash=False, frozen=False, match_args=True,
              kw_only=False, slots=False, weakref_slot=False):
    def wrap(cls):
        return _process_class(cls, init, repr, eq, order, unsafe_hash,
                              frozen, match_args, kw_only, slots,
                              weakref_slot)
    if cls is None:
        return wrap
    return wrap(cls)
def fields(class_or_instance):
    try:
        fields = getattr(class_or_instance, _FIELDS)
    except AttributeError:
        raise TypeError('must be called with a dataclass type or instance') from None
    return tuple(f for f in fields.values() if f._field_type is _FIELD)
def _is_dataclass_instance(obj):
    return hasattr(type(obj), _FIELDS)
def is_dataclass(obj):
    cls = obj if isinstance(obj, type) else type(obj)
    return hasattr(cls, _FIELDS)
def asdict(obj, *, dict_factory=dict):
    if not _is_dataclass_instance(obj):
        raise TypeError(\"asdict() should be called on dataclass instances\")
    return _asdict_inner(obj, dict_factory)
def _asdict_inner(obj, dict_factory):
    if _is_dataclass_instance(obj):
        result = []
        for f in fields(obj):
            value = _asdict_inner(getattr(obj, f.name), dict_factory)
            result.append((f.name, value))
        return dict_factory(result)
    elif isinstance(obj, tuple) and hasattr(obj, '_fields'):
        return type(obj)(*[_asdict_inner(v, dict_factory) for v in obj])
    elif isinstance(obj, (list, tuple)):
        return type(obj)(_asdict_inner(v, dict_factory) for v in obj)
    elif isinstance(obj, dict):
        return type(obj)((_asdict_inner(k, dict_factory),
                          _asdict_inner(v, dict_factory))
                         for k, v in obj.items())
    else:
        return copy.deepcopy(obj)
def astuple(obj, *, tuple_factory=tuple):
    if not _is_dataclass_instance(obj):
        raise TypeError(\"astuple() should be called on dataclass instances\")
    return _astuple_inner(obj, tuple_factory)
def _astuple_inner(obj, tuple_factory):
    if _is_dataclass_instance(obj):
        result = []
        for f in fields(obj):
            value = _astuple_inner(getattr(obj, f.name), tuple_factory)
            result.append(value)
        return tuple_factory(result)
    elif isinstance(obj, tuple) and hasattr(obj, '_fields'):
        return type(obj)(*[_astuple_inner(v, tuple_factory) for v in obj])
    elif isinstance(obj, (list, tuple)):
        return type(obj)(_astuple_inner(v, tuple_factory) for v in obj)
    elif isinstance(obj, dict):
        return type(obj)((_astuple_inner(k, tuple_factory), _astuple_inner(v, tuple_factory))
                         for k, v in obj.items())
    else:
        return copy.deepcopy(obj)
def make_dataclass(cls_name, fields, *, bases=(), namespace=None, init=True,
                   repr=True, eq=True, order=False, unsafe_hash=False,
                   frozen=False, match_args=True, kw_only=False, slots=False,
                   weakref_slot=False):
    if namespace is None:
        namespace = \x7b\x7d
    seen = set()
    annotations = \x7b\x7d
    defaults = \x7b\x7d
    for item in fields:
        if isinstance(item, str):
            name = item
            tp = 'typing.Any'
        elif len(item) == 2:
            name, tp, = item
        elif len(item) == 3:
            name, tp, spec = item
            defaults[name] = spec
        else:
            raise TypeError(f'Invalid field: \x7bitem!r\x7d')
        if not isinstance(name, str) or not name.isidentifier():
            raise TypeError(f'Field names must be valid identifiers: \x7bname!r\x7d')
        if keyword.iskeyword(name):
            raise TypeError(f'Field names must not be keywords: \x7bname!r\x7d')
        if name in seen:
            raise TypeError(f'Field name duplicated: \x7bname!r\x7d')
        seen.add(name)
        annotations[name] = tp
    def exec_body_callback(ns):
        ns.update(namespace)
        ns.update(defaults)
        ns['__annotations__'] = annotations
    cls = types.new_class(cls_name, bases, \x7b\x7d, exec_body_callback)
    return dataclass(cls, init=init, repr=repr, eq=eq, order=order,
                     unsafe_hash=unsafe_hash, frozen=frozen,
                     match_args=match_args, kw_only=kw_only, slots=slots,
                     weakref_slot=weakref_slot)
def replace(obj, /, **changes):
    if not _is_dataclass_instance(obj):
        raise TypeError(\"replace() should be called on dataclass instances\")
    for f in getattr(obj, _FIELDS).values():
        if f._field_type is _FIELD_CLASSVAR:
            continue
        if not f.init:
            if f.name in changes:
                raise ValueError(f'field \x7bf.name\x7d is declared with '
                                 'init=False, it cannot be specified with '
                                 'replace()')
            continue
        if f.name not in changes:
            if f._field_type is _FIELD_INITVAR and f.default is MISSING:
                raise ValueError(f\"InitVar \x7bf.name!r\x7d \"
                                 'must be specified with replace()')
            changes[f.name] = getattr(obj, f.name)
    return obj.__class__(**changes)
"

end StubDoctest.Bundled
