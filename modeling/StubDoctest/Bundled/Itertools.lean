/-!
# The bundled module `itertools`

Iterator building blocks: counting, cycling and repeating, accumulating, chaining, slicing, grouping, and the combinatoric products, permutations and combinations.
-/

namespace StubDoctest.Bundled

/-- The source of `itertools`. -/
def itertools : String := "class _Stream:
    def __iter__(self):
        return self
    def __next__(self):
        return next(self._it)
def _check_r(r):
    if not isinstance(r, int):
        raise TypeError(f\"'\x7btype(r).__name__\x7d' object cannot be interpreted as an integer\")
    if r < 0:
        raise ValueError('r must be non-negative')
    return r
class count(_Stream):
    def __init__(self, start=0, step=1):
        if not isinstance(start, (int, float, complex)) or not isinstance(step, (int, float, complex)):
            raise TypeError('a number is required')
        self._n = start
        self._step = step
    def __next__(self):
        n = self._n
        self._n = n + self._step
        return n
    def __repr__(self):
        if isinstance(self._step, int) and self._step == 1:
            return f'count(\x7bself._n!r\x7d)'
        return f'count(\x7bself._n!r\x7d, \x7bself._step!r\x7d)'
class cycle(_Stream):
    def __init__(self, iterable):
        self._it = self._run(iter(iterable))
    def _run(self, it):
        saved = []
        for element in it:
            yield element
            saved.append(element)
        while saved:
            for element in saved:
                yield element
class repeat(_Stream):
    def __init__(self, object, times=None):
        self._object = object
        if times is not None and times < 0:
            times = 0
        self._times = times
    def __next__(self):
        if self._times is None:
            return self._object
        if self._times <= 0:
            raise StopIteration
        self._times -= 1
        return self._object
    def __length_hint__(self):
        return self._times
    def __repr__(self):
        if self._times is None:
            return f'repeat(\x7bself._object!r\x7d)'
        return f'repeat(\x7bself._object!r\x7d, \x7bself._times\x7d)'
class accumulate(_Stream):
    def __init__(self, iterable, func=None, *, initial=None):
        self._it = self._run(iter(iterable), func, initial)
    def _run(self, it, func, initial):
        total = initial
        if initial is None:
            try:
                total = next(it)
            except StopIteration:
                return
        yield total
        for element in it:
            if func is None:
                total = total + element
            else:
                total = func(total, element)
            yield total
class chain(_Stream):
    def __init__(self, *iterables):
        self._it = self._run(iterables)
    def _run(self, iterables):
        for it in iterables:
            for element in it:
                yield element
    @classmethod
    def from_iterable(cls, iterables):
        self = cls()
        self._it = self._run(iterables)
        return self
class compress(_Stream):
    def __init__(self, data, selectors):
        self._it = self._run(iter(data), iter(selectors))
    def _run(self, data, selectors):
        for d, s in zip(data, selectors):
            if s:
                yield d
class dropwhile(_Stream):
    def __init__(self, predicate, iterable):
        self._it = self._run(predicate, iter(iterable))
    def _run(self, predicate, it):
        for x in it:
            if not predicate(x):
                yield x
                break
        for x in it:
            yield x
class takewhile(_Stream):
    def __init__(self, predicate, iterable):
        self._it = self._run(predicate, iter(iterable))
    def _run(self, predicate, it):
        for x in it:
            if predicate(x):
                yield x
            else:
                break
class filterfalse(_Stream):
    def __init__(self, predicate, iterable):
        self._it = self._run(predicate, iter(iterable))
    def _run(self, predicate, it):
        if predicate is None:
            predicate = bool
        for x in it:
            if not predicate(x):
                yield x
class starmap(_Stream):
    def __init__(self, function, iterable):
        self._it = self._run(function, iter(iterable))
    def _run(self, function, it):
        for args in it:
            yield function(*args)
class groupby(_Stream):
    def __init__(self, iterable, key=None):
        if key is None:
            key = _identity
        self._keyfunc = key
        self._it = iter(iterable)
        self._tgtkey = self._currkey = self._currvalue = object()
        self._id = None
    def __next__(self):
        self._id = object()
        while self._currkey == self._tgtkey:
            self._currvalue = next(self._it)
            self._currkey = self._keyfunc(self._currvalue)
        self._tgtkey = self._currkey
        return (self._currkey, self._grouper(self._tgtkey, self._id))
    def _grouper(self, tgtkey, id):
        while self._id is id and self._currkey == tgtkey:
            yield self._currvalue
            try:
                self._currvalue = next(self._it)
            except StopIteration:
                return
            self._currkey = self._keyfunc(self._currvalue)
def _identity(x):
    return x
class islice(_Stream):
    def __init__(self, iterable, *args):
        if len(args) == 0:
            raise TypeError('islice expected at least 2 arguments, got 1')
        if len(args) > 3:
            raise TypeError(f'islice expected at most 4 arguments, got \x7blen(args) + 1\x7d')
        if len(args) == 1:
            start, stop, step = None, args[0], None
        elif len(args) == 2:
            start, stop, step = args[0], args[1], None
        else:
            start, stop, step = args
        if stop is not None and (not isinstance(stop, int) or stop < 0):
            raise ValueError('Stop argument for islice() must be None or an integer: '
                             '0 <= x <= sys.maxsize.')
        if start is None:
            start = 0
        elif not isinstance(start, int) or start < 0:
            raise ValueError('Indices for islice() must be None or an integer: '
                             '0 <= x <= sys.maxsize.')
        if step is None:
            step = 1
        elif not isinstance(step, int) or step <= 0:
            raise ValueError('Step for islice() must be a positive integer or None.')
        self._it = self._run(iter(iterable), start, stop, step)
    def _run(self, it, start, stop, step):
        i = 0
        nexti = start
        while stop is None or i < stop:
            if i >= nexti and stop is not None and nexti >= stop:
                break
            try:
                element = next(it)
            except StopIteration:
                return
            if i == nexti:
                yield element
                nexti += step
            i += 1
class pairwise(_Stream):
    def __init__(self, iterable):
        self._it = self._run(iter(iterable))
    def _run(self, it):
        try:
            a = next(it)
        except StopIteration:
            return
        for b in it:
            yield (a, b)
            a = b
class zip_longest(_Stream):
    def __init__(self, *iterables, fillvalue=None):
        self._it = self._run([iter(it) for it in iterables], fillvalue)
    def _run(self, iterators, fillvalue):
        num_active = len(iterators)
        if not num_active:
            return
        while True:
            values = []
            for i, it in enumerate(iterators):
                try:
                    value = next(it)
                except StopIteration:
                    num_active -= 1
                    if not num_active:
                        return
                    iterators[i] = repeat(fillvalue)
                    value = fillvalue
                values.append(value)
            yield tuple(values)
class product(_Stream):
    def __init__(self, *iterables, repeat=1):
        if repeat < 0:
            raise ValueError('repeat argument cannot be negative')
        pools = [tuple(pool) for pool in iterables] * repeat
        self._it = self._run(pools)
    def _run(self, pools):
        result = [[]]
        for pool in pools:
            result = [x + [y] for x in result for y in pool]
        for prod in result:
            yield tuple(prod)
class permutations(_Stream):
    def __init__(self, iterable, r=None):
        pool = tuple(iterable)
        n = len(pool)
        r = n if r is None else _check_r(r)
        self._it = self._run(pool, n, r)
    def _run(self, pool, n, r):
        if r > n:
            return
        indices = list(range(n))
        cycles = list(range(n, n - r, -1))
        yield tuple(pool[i] for i in indices[:r])
        while n:
            for i in reversed(range(r)):
                cycles[i] -= 1
                if cycles[i] == 0:
                    indices[i:] = indices[i + 1:] + indices[i:i + 1]
                    cycles[i] = n - i
                else:
                    j = cycles[i]
                    indices[i], indices[-j] = indices[-j], indices[i]
                    yield tuple(pool[i] for i in indices[:r])
                    break
            else:
                return
class combinations(_Stream):
    def __init__(self, iterable, r):
        pool = tuple(iterable)
        self._it = self._run(pool, _check_r(r))
    def _run(self, pool, r):
        n = len(pool)
        if r > n:
            return
        indices = list(range(r))
        yield tuple(pool[i] for i in indices)
        while True:
            for i in reversed(range(r)):
                if indices[i] != i + n - r:
                    break
            else:
                return
            indices[i] += 1
            for j in range(i + 1, r):
                indices[j] = indices[j - 1] + 1
            yield tuple(pool[i] for i in indices)
class combinations_with_replacement(_Stream):
    def __init__(self, iterable, r):
        pool = tuple(iterable)
        self._it = self._run(pool, _check_r(r))
    def _run(self, pool, r):
        n = len(pool)
        if not n and r:
            return
        indices = [0] * r
        yield tuple(pool[i] for i in indices)
        while True:
            for i in reversed(range(r)):
                if indices[i] != n - 1:
                    break
            else:
                return
            indices[i:] = [indices[i] + 1] * (r - i)
            yield tuple(pool[i] for i in indices)
class _tee(_Stream):
    def __init__(self, source, buffer, index):
        self._source = source
        self._buffer = buffer
        self._index = index
    def __next__(self):
        buffers = self._buffer
        if not buffers[self._index]:
            value = next(self._source)
            for b in buffers:
                b.append(value)
        return buffers[self._index].pop(0)
def tee(iterable, n=2):
    if n < 0:
        raise ValueError('n must be >= 0')
    source = iter(iterable)
    buffers = [[] for _ in range(n)]
    return tuple(_tee(source, buffers, i) for i in range(n))
"

end StubDoctest.Bundled
