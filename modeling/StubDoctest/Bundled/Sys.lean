/-!
# The bundled module `sys`

The parts of `sys` that are classes of their own: the version as a named tuple.
-/

namespace StubDoctest.Bundled

/-- The source of `sys`. -/
def sys : String := "class version_info(tuple):
    __slots__ = ()
    def __repr__(self):
        return ('sys.version_info(major=%r, minor=%r, micro=%r, releaselevel=%r, serial=%r)'
                % tuple(self))
    major = property(lambda self: tuple.__getitem__(self, 0))
    minor = property(lambda self: tuple.__getitem__(self, 1))
    micro = property(lambda self: tuple.__getitem__(self, 2))
    releaselevel = property(lambda self: tuple.__getitem__(self, 3))
    serial = property(lambda self: tuple.__getitem__(self, 4))
version_info.__module__ = 'sys'
version_info = version_info((3, 11, 9, 'final', 0))
"

end StubDoctest.Bundled
