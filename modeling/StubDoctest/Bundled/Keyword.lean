/-!
# The bundled module `keyword`

The reserved words of the language and the soft keywords, with tests for them.
-/

namespace StubDoctest.Bundled

/-- The source of `keyword`. -/
def keyword : String := "kwlist = [
    'False', 'None', 'True', 'and', 'as', 'assert', 'async', 'await', 'break', 'class',
    'continue', 'def', 'del', 'elif', 'else', 'except', 'finally', 'for', 'from', 'global',
    'if', 'import', 'in', 'is', 'lambda', 'nonlocal', 'not', 'or', 'pass', 'raise', 'return',
    'try', 'while', 'with', 'yield',
]
softkwlist = ['_', 'case', 'match']
_kwset = frozenset(kwlist)
_softset = frozenset(softkwlist)
def iskeyword(s):
    return s in _kwset
def issoftkeyword(s):
    return s in _softset
"

end StubDoctest.Bundled
