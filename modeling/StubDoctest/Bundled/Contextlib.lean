/-!
# The bundled module `contextlib`

Context managers made from generators, and the small ones for suppressing exceptions, closing things and stacking managers.
-/

namespace StubDoctest.Bundled

/-- The source of `contextlib`. -/
def contextlib : String := "from functools import wraps
class AbstractContextManager:
    def __enter__(self):
        return self
    def __exit__(self, exc_type, exc_value, traceback):
        return None
class ContextDecorator:
    def _recreate_cm(self):
        return self
    def __call__(self, func):
        @wraps(func)
        def inner(*args, **kwds):
            with self._recreate_cm():
                return func(*args, **kwds)
        return inner
class _GeneratorContextManager(AbstractContextManager, ContextDecorator):
    def __init__(self, func, args, kwds):
        self.gen = func(*args, **kwds)
        self.func, self.args, self.kwds = func, args, kwds
        doc = getattr(func, '__doc__', None)
        if doc is None:
            doc = type(self).__doc__
        self.__doc__ = doc
    def _recreate_cm(self):
        return self.__class__(self.func, self.args, self.kwds)
    def __enter__(self):
        del self.args, self.kwds, self.func
        try:
            return next(self.gen)
        except StopIteration:
            raise RuntimeError(\"generator didn't yield\") from None
    def __exit__(self, typ, value, traceback):
        if typ is None:
            try:
                next(self.gen)
            except StopIteration:
                return False
            else:
                raise RuntimeError(\"generator didn't stop\")
        else:
            if value is None:
                value = typ()
            try:
                self.gen.throw(typ, value, traceback)
            except StopIteration as exc:
                return exc is not value
            except RuntimeError as exc:
                if exc is value:
                    return False
                if isinstance(value, StopIteration) and exc.__cause__ is value:
                    return False
                raise
            except BaseException as exc:
                if exc is not value:
                    raise
                return False
            raise RuntimeError(\"generator didn't stop after throw()\")
def contextmanager(func):
    @wraps(func)
    def helper(*args, **kwds):
        return _GeneratorContextManager(func, args, kwds)
    return helper
class closing(AbstractContextManager):
    def __init__(self, thing):
        self.thing = thing
    def __enter__(self):
        return self.thing
    def __exit__(self, *exc_info):
        self.thing.close()
class nullcontext(AbstractContextManager):
    def __init__(self, enter_result=None):
        self.enter_result = enter_result
    def __enter__(self):
        return self.enter_result
    def __exit__(self, *excinfo):
        pass
class suppress(AbstractContextManager):
    def __init__(self, *exceptions):
        self._exceptions = exceptions
    def __enter__(self):
        pass
    def __exit__(self, exctype, excinst, exctb):
        return exctype is not None and issubclass(exctype, self._exceptions)
class ExitStack(AbstractContextManager):
    def __init__(self):
        self._exit_callbacks = []
    def pop_all(self):
        new_stack = type(self)()
        new_stack._exit_callbacks = self._exit_callbacks
        self._exit_callbacks = []
        return new_stack
    def push(self, exit):
        _cb_type = type(exit)
        try:
            exit_method = _cb_type.__exit__
        except AttributeError:
            self._exit_callbacks.append((True, exit))
        else:
            self._exit_callbacks.append((True, _bound_exit(exit_method, exit)))
        return exit
    def enter_context(self, cm):
        cls = type(cm)
        try:
            _enter = cls.__enter__
            _exit = cls.__exit__
        except AttributeError:
            raise TypeError(f\"'\x7bcls.__module__\x7d.\x7bcls.__qualname__\x7d' object does \"
                            f\"not support the context manager protocol\") from None
        result = _enter(cm)
        self._exit_callbacks.append((True, _bound_exit(_exit, cm)))
        return result
    def callback(self, callback, /, *args, **kwds):
        def _exit_wrapper(exc_type, exc, tb):
            callback(*args, **kwds)
        self._exit_callbacks.append((False, _exit_wrapper))
        return callback
    def close(self):
        self.__exit__(None, None, None)
    def __exit__(self, *exc_details):
        received_exc = exc_details[0] is not None
        suppressed_exc = False
        pending_raise = False
        while self._exit_callbacks:
            is_sync, cb = self._exit_callbacks.pop()
            try:
                if cb(*exc_details):
                    suppressed_exc = True
                    pending_raise = False
                    exc_details = (None, None, None)
            except BaseException as new_exc:
                exc_details = (type(new_exc), new_exc, None)
                pending_raise = True
        if pending_raise:
            raise exc_details[1]
        return received_exc and suppressed_exc
def _bound_exit(method, obj):
    def exit(*details):
        return method(obj, *details)
    return exit
"

end StubDoctest.Bundled
