/-!
# The bundled module `re`

Regular expressions: compiling patterns, and matching, searching, splitting and substituting text with them.
-/

namespace StubDoctest.Bundled

/-- The source of `re`. -/
def re : String := "from types import MappingProxyType as _MappingProxyType, GenericAlias as _GenericAlias
__all__ = [
    \"match\", \"fullmatch\", \"search\", \"sub\", \"subn\", \"split\",
    \"findall\", \"finditer\", \"compile\", \"purge\", \"template\", \"escape\",
    \"error\", \"Pattern\", \"Match\", \"A\", \"I\", \"L\", \"M\", \"S\", \"X\", \"U\",
    \"ASCII\", \"IGNORECASE\", \"LOCALE\", \"MULTILINE\", \"DOTALL\", \"VERBOSE\",
    \"UNICODE\", \"NOFLAG\", \"RegexFlag\",
]
__version__ = \"2.2.1\"
class error(Exception):
    def __init__(self, msg, pattern=None, pos=None):
        self.msg = msg
        self.pattern = pattern
        self.pos = pos
        if pattern is not None and pos is not None:
            msg = '%s at position %d' % (msg, pos)
            if isinstance(pattern, str):
                newline = '\\n'
            else:
                newline = b'\\n'
            self.lineno = pattern.count(newline, 0, pos) + 1
            self.colno = pos - pattern.rfind(newline, 0, pos)
            if newline in pattern:
                msg = '%s (line %d, column %d)' % (msg, self.lineno, self.colno)
        else:
            self.lineno = self.colno = None
        super().__init__(msg)
_FLAG_MEMBERS = [('ASCII', 256), ('IGNORECASE', 2), ('LOCALE', 4), ('UNICODE', 32),
                 ('MULTILINE', 8), ('DOTALL', 16), ('VERBOSE', 64), ('TEMPLATE', 1),
                 ('DEBUG', 128)]
_ALL_FLAGS = 511
class RegexFlag(int):
    def __new__(cls, value=0):
        return int.__new__(cls, value)
    def _names(self):
        value = int(self)
        names = []
        for name, bit in _FLAG_MEMBERS:
            if value & bit:
                names.append(name)
                value &= ~bit
        return names, value
    @property
    def value(self):
        return int(self)
    @property
    def name(self):
        if int(self) == 0:
            return 'NOFLAG'
        names, rest = self._names()
        if rest or not names:
            return None
        return '|'.join(names)
    def __repr__(self):
        if int(self) == 0:
            return 're.NOFLAG'
        names, rest = self._names()
        parts = ['re.' + n for n in names]
        if rest:
            parts.append(hex(rest))
        return '|'.join(parts)
    __str__ = __repr__
    def __format__(self, spec):
        if not spec:
            return str(self)
        return format(int(self), spec)
    def __or__(self, other):
        if isinstance(other, int):
            return RegexFlag(int(self) | int(other))
        return NotImplemented
    def __and__(self, other):
        if isinstance(other, int):
            return RegexFlag(int(self) & int(other))
        return NotImplemented
    def __xor__(self, other):
        if isinstance(other, int):
            return RegexFlag(int(self) ^ int(other))
        return NotImplemented
    __ror__ = __or__
    __rand__ = __and__
    __rxor__ = __xor__
    def __invert__(self):
        return RegexFlag(_ALL_FLAGS & ~int(self))
    def __reduce__(self):
        return RegexFlag, (int(self),)
NOFLAG = RegexFlag(0)
ASCII = A = RegexFlag(256)
IGNORECASE = I = RegexFlag(2)
LOCALE = L = RegexFlag(4)
UNICODE = U = RegexFlag(32)
MULTILINE = M = RegexFlag(8)
DOTALL = S = RegexFlag(16)
VERBOSE = X = RegexFlag(64)
TEMPLATE = T = RegexFlag(1)
DEBUG = RegexFlag(128)
_REPR_FLAGS = [('re.TEMPLATE', 1), ('re.IGNORECASE', 2), ('re.LOCALE', 4), ('re.MULTILINE', 8),
               ('re.DOTALL', 16), ('re.UNICODE', 32), ('re.VERBOSE', 64), ('re.DEBUG', 128),
               ('re.ASCII', 256)]
def _slice(string, start, end):
    if isinstance(string, str):
        return string[start:end]
    return bytes(string[start:end])
def _empty(string):
    return '' if isinstance(string, str) else b''
class Match:
    def __init__(self, pattern, string, pos, endpos, found):
        self.re = pattern
        self.string = string
        self.pos = pos
        self.endpos = endpos
        start, end, lastindex, spans = found
        self.regs = ((start, end),) + spans
        self.lastindex = lastindex
        self.lastgroup = None
        if lastindex is not None:
            for name, index in pattern.groupindex.items():
                if index == lastindex:
                    self.lastgroup = name
    def _index(self, group):
        if isinstance(group, int):
            if 0 <= group <= self.re.groups:
                return int(group)
        else:
            index = self.re.groupindex.get(group)
            if index is not None:
                return index
        raise IndexError('no such group')
    def _get(self, index, default=None):
        start, end = self.regs[index]
        if start < 0:
            return default
        return _slice(self.string, start, end)
    def group(self, *args):
        if not args:
            return self._get(0)
        if len(args) == 1:
            return self._get(self._index(args[0]))
        return tuple(self._get(self._index(g)) for g in args)
    def __getitem__(self, group):
        return self._get(self._index(group))
    def groups(self, default=None):
        return tuple(self._get(i, default) for i in range(1, self.re.groups + 1))
    def groupdict(self, default=None):
        return \x7bname: self._get(index, default) for name, index in self.re.groupindex.items()\x7d
    def start(self, group=0):
        return self.regs[self._index(group)][0]
    def end(self, group=0):
        return self.regs[self._index(group)][1]
    def span(self, group=0):
        return self.regs[self._index(group)]
    def expand(self, template):
        return _expand_template(_parse_template(template, self.re), self)
    def __repr__(self):
        start, end = self.regs[0]
        return '<re.Match object; span=(%d, %d), match=%s>' % (start, end, repr(self.group(0))[:50])
    def __copy__(self):
        return self
    def __deepcopy__(self, memo):
        return self
    __class_getitem__ = classmethod(_GenericAlias)
class Pattern:
    def __init__(self, pattern, given, flags, groups, names):
        self.pattern = pattern
        self._given = given
        self.flags = flags
        self.groups = groups
        self._names = dict(names)
    @property
    def groupindex(self):
        if not self._names:
            return \x7b\x7d
        return _MappingProxyType(self._names)
    def __repr__(self):
        flags = self.flags
        if isinstance(self.pattern, str) and flags & (4 | 32 | 256) == 32:
            flags &= ~32
        names = []
        for name, bit in _REPR_FLAGS:
            if flags & bit:
                names.append(name)
                flags &= ~bit
        if flags:
            names.append(hex(flags))
        text = repr(self.pattern)[:200]
        if names:
            return 're.compile(%s, %s)' % (text, '|'.join(names))
        return 're.compile(%s)' % text
    def __eq__(self, other):
        if not isinstance(other, Pattern):
            return NotImplemented
        return (self.flags == other.flags and type(self.pattern) is type(other.pattern)
                and self.pattern == other.pattern)
    def __hash__(self):
        return hash((self.pattern, self.flags))
    def __copy__(self):
        return self
    def __deepcopy__(self, memo):
        return self
    __class_getitem__ = classmethod(_GenericAlias)
    def _bounds(self, string, pos, endpos):
        n = len(string) if isinstance(string, (str, bytes, bytearray, memoryview)) else 0
        pos = min(max(pos, 0), n)
        endpos = min(max(endpos, 0), n)
        return pos, endpos
    def _find(self, string, pos, endpos, mode):
        found = _search(self.pattern, self._given, string, pos, endpos, mode)
        if found is None:
            return None
        pos, endpos = self._bounds(string, pos, endpos)
        return Match(self, string, pos, endpos, found)
    def match(self, string, pos=0, endpos=9223372036854775807):
        return self._find(string, pos, endpos, 0)
    def search(self, string, pos=0, endpos=9223372036854775807):
        return self._find(string, pos, endpos, 1)
    def fullmatch(self, string, pos=0, endpos=9223372036854775807):
        return self._find(string, pos, endpos, 2)
    def _all(self, string, pos=0, endpos=9223372036854775807, limit=0):
        return _scan(self.pattern, self._given, string, pos, endpos, limit)
    def findall(self, string, pos=0, endpos=9223372036854775807):
        result = []
        for start, end, lastindex, spans in self._all(string, pos, endpos):
            if self.groups == 0:
                result.append(_slice(string, start, end))
            else:
                items = tuple(_empty(string) if a < 0 else _slice(string, a, b) for a, b in spans)
                result.append(items[0] if self.groups == 1 else items)
        return result
    def finditer(self, string, pos=0, endpos=9223372036854775807):
        clamped = self._bounds(string, pos, endpos)
        return iter([Match(self, string, clamped[0], clamped[1], found)
                     for found in self._all(string, pos, endpos)])
    def split(self, string, maxsplit=0):
        pieces = []
        last = 0
        for start, end, lastindex, spans in self._all(string, 0, 9223372036854775807, maxsplit):
            pieces.append(_slice(string, last, start))
            for a, b in spans:
                pieces.append(None if a < 0 else _slice(string, a, b))
            last = end
        pieces.append(_slice(string, last, len(string)))
        return pieces
    def _subx(self, repl, string, count):
        if callable(repl):
            filter = repl
        elif isinstance(repl, (str, bytes)) and ('\\\\' if isinstance(repl, str) else b'\\\\') not in repl:
            filter = repl
        else:
            template = _parse_template(repl, self)
            if not template[0] and len(template[1]) == 1:
                filter = template[1][0]
            else:
                def filter(match, template=template):
                    return _expand_template(template, match)
        found = self._all(string, 0, 9223372036854775807, count)
        pieces = []
        last = 0
        n = 0
        for item in found:
            start, end = item[0], item[1]
            if last < start:
                pieces.append(_slice(string, last, start))
            if callable(filter):
                value = filter(Match(self, string, 0, len(string), item))
                if value is not None:
                    pieces.append(value)
            else:
                pieces.append(filter)
            last = end
            n += 1
        if last < len(string):
            pieces.append(_slice(string, last, len(string)))
        return _empty(string).join(pieces), n
    def sub(self, repl, string, count=0):
        return self._subx(repl, string, count)[0]
    def subn(self, repl, string, count=0):
        return self._subx(repl, string, count)
class _Tokenizer:
    def __init__(self, string):
        self.istext = isinstance(string, str)
        self.string = string
        if not self.istext:
            string = str(string, 'latin1')
        self.decoded_string = string
        self.index = 0
        self.next = None
        self._advance()
    def _advance(self):
        index = self.index
        if index >= len(self.decoded_string):
            self.next = None
            return
        char = self.decoded_string[index]
        if char == \"\\\\\":
            index += 1
            if index >= len(self.decoded_string):
                raise error(\"bad escape (end of pattern)\", self.string, len(self.string) - 1)
            char += self.decoded_string[index]
        self.index = index + 1
        self.next = char
    def match(self, char):
        if char == self.next:
            self._advance()
            return True
        return False
    def get(self):
        this = self.next
        self._advance()
        return this
    def getuntil(self, terminator, name):
        result = ''
        while True:
            c = self.next
            self._advance()
            if c is None:
                if not result:
                    raise self.error(\"missing \" + name)
                raise self.error(\"missing %s, unterminated name\" % terminator, len(result))
            if c == terminator:
                if not result:
                    raise self.error(\"missing \" + name, 1)
                break
            result += c
        return result
    def tell(self):
        return self.index - len(self.next or '')
    def error(self, msg, offset=0):
        if not self.istext:
            msg = msg.encode('ascii', 'backslashreplace').decode('ascii')
        return error(msg, self.string, self.tell() - offset)
_TEMPLATE_ESCAPES = \x7b\"\\\\a\": \"\\a\", \"\\\\b\": \"\\b\", \"\\\\f\": \"\\f\", \"\\\\n\": \"\\n\", \"\\\\r\": \"\\r\",
                     \"\\\\t\": \"\\t\", \"\\\\v\": \"\\v\", \"\\\\\\\\\": \"\\\\\"\x7d
_OCTDIGITS = \"01234567\"
_DIGITS = \"0123456789\"
_ASCIILETTERS = \"abcdefghijklmnopqrstuvwxyzABCDEFGHIJKLMNOPQRSTUVWXYZ\"
def _parse_template(source, pattern):
    s = _Tokenizer(source)
    groups = []
    literals = []
    literal = []
    def addgroup(index, pos):
        if index > pattern.groups:
            raise s.error(\"invalid group reference %d\" % index, pos)
        if literal:
            literals.append(''.join(literal))
            del literal[:]
        groups.append((len(literals), index))
        literals.append(None)
    groupindex = pattern.groupindex
    while True:
        this = s.get()
        if this is None:
            break
        if this[0] == \"\\\\\":
            c = this[1]
            if c == \"g\":
                if not s.match(\"<\"):
                    raise s.error(\"missing <\")
                name = s.getuntil(\">\", \"group name\")
                if name.isidentifier():
                    try:
                        index = groupindex[name]
                    except KeyError:
                        raise IndexError(\"unknown group name %r\" % name) from None
                else:
                    try:
                        index = int(name)
                        if index < 0:
                            raise ValueError
                    except ValueError:
                        raise s.error(\"bad character in group name %r\" % name,
                                      len(name) + 1) from None
                    if index >= 1073741823:
                        raise s.error(\"invalid group reference %d\" % index, len(name) + 1)
                addgroup(index, len(name) + 1)
            elif c == \"0\":
                if s.next is not None and s.next in _OCTDIGITS:
                    this += s.get()
                    if s.next is not None and s.next in _OCTDIGITS:
                        this += s.get()
                literal.append(chr(int(this[1:], 8) & 0xff))
            elif c in _DIGITS:
                isoctal = False
                if s.next is not None and s.next in _DIGITS:
                    this += s.get()
                    if (c in _OCTDIGITS and this[2] in _OCTDIGITS and
                            s.next is not None and s.next in _OCTDIGITS):
                        this += s.get()
                        isoctal = True
                        c = int(this[1:], 8)
                        if c > 0o377:
                            raise s.error('octal escape value %s outside of range 0-0o377' % this,
                                          len(this))
                        literal.append(chr(c))
                if not isoctal:
                    addgroup(int(this[1:]), len(this) - 1)
            else:
                try:
                    this = _TEMPLATE_ESCAPES[this]
                except KeyError:
                    if c in _ASCIILETTERS:
                        raise s.error('bad escape %s' % this, len(this)) from None
                literal.append(this)
        else:
            literal.append(this)
    if literal:
        literals.append(''.join(literal))
    if not isinstance(source, str):
        literals = [None if x is None else x.encode('latin-1') for x in literals]
    return groups, literals
def _expand_template(template, match):
    g = match.group
    empty = match.string[:0]
    groups, literals = template
    literals = literals[:]
    try:
        for index, group in groups:
            literals[index] = g(group) or empty
    except IndexError:
        raise error(\"invalid group reference %d\" % index) from None
    return empty.join(literals)
_cache = \x7b\x7d
def _compile(pattern, flags):
    if isinstance(flags, RegexFlag):
        flags = flags.value
    try:
        return _cache[type(pattern), pattern, flags]
    except KeyError:
        pass
    if isinstance(pattern, Pattern):
        if flags:
            raise ValueError(\"cannot process flags argument with a compiled pattern\")
        return pattern
    if not isinstance(pattern, (str, bytes)):
        raise TypeError(\"first argument must be string or compiled pattern\")
    flags & T
    final, groups, names = _parse(pattern, flags)
    if final is None:
        raise error(groups, pattern, names)
    p = Pattern(pattern, flags, final, groups, names)
    if not (flags & DEBUG):
        _cache[type(pattern), pattern, flags] = p
    return p
def match(pattern, string, flags=0):
    return _compile(pattern, flags).match(string)
def fullmatch(pattern, string, flags=0):
    return _compile(pattern, flags).fullmatch(string)
def search(pattern, string, flags=0):
    return _compile(pattern, flags).search(string)
def sub(pattern, repl, string, count=0, flags=0):
    return _compile(pattern, flags).sub(repl, string, count)
def subn(pattern, repl, string, count=0, flags=0):
    return _compile(pattern, flags).subn(repl, string, count)
def split(pattern, string, maxsplit=0, flags=0):
    return _compile(pattern, flags).split(string, maxsplit)
def findall(pattern, string, flags=0):
    return _compile(pattern, flags).findall(string)
def finditer(pattern, string, flags=0):
    return _compile(pattern, flags).finditer(string)
def compile(pattern, flags=0):
    return _compile(pattern, flags)
def purge():
    _cache.clear()
def template(pattern, flags=0):
    return _compile(pattern, flags | T)
_special_chars_map = \x7bi: '\\\\' + chr(i) for i in b'()[]\x7b\x7d?*+-|^$\\\\.&~# \\t\\n\\r\\v\\f'\x7d
def escape(pattern):
    if isinstance(pattern, str):
        return pattern.translate(_special_chars_map)
    else:
        pattern = str(pattern, 'latin1')
        return pattern.translate(_special_chars_map).encode('latin1')
"

end StubDoctest.Bundled
