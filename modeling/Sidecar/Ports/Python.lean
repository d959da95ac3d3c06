import Mathlib.Data.Rat.Defs
import Mathlib.Algebra.Order.Ring.Unbundled.Rat

/-!
# The Python values the sidecar handles

JSON documents as `json.loads` returns them, the exceptions that cross the
module boundaries of the sidecar, and the few pieces of the standard library
that its functions call: `str.strip`, `repr` of a string, and
`datetime.fromtimestamp(..., tz=UTC).isoformat()`.
-/

namespace Sidecar.Ports.Python

/-! ## JSON values -/

/-- What `json.loads` returns.  `true` and `false` are kept apart from the
numbers although `isinstance(True, int)` holds; `asInt` below is that test. -/
inductive Json where
  | null
  | bool (b : Bool)
  | int (n : Int)
  | float (q : Rat)
  | str (s : String)
  | arr (xs : List Json)
  | obj (fields : List (String × Json))

/-- A `dict[str, Any]`. -/
abbrev JsonObject := List (String × Json)

/-- `d.get(key)`: a missing key and an explicit `null` both give `None`. -/
def get (d : JsonObject) (key : String) : Json := (d.lookup key).getD .null

/-- `isinstance(value, int)`, with the value it has as an integer.  Python's
booleans are integers. -/
def asInt : Json → Option Int
  | .int n => some n
  | .bool true => some 1
  | .bool false => some 0
  | _ => none

/-- `isinstance(value, str) and value`. -/
def asNonEmptyStr : Json → Option String
  | .str s => if s = "" then none else some s
  | _ => none

theorem asNonEmptyStr_eq_some {v : Json} {s : String} :
    asNonEmptyStr v = some s ↔ v = .str s ∧ s ≠ "" := by
  cases v with
  | str x =>
      simp only [asNonEmptyStr, Json.str.injEq]
      by_cases hx : x = ""
      · simp only [hx, if_true, reduceCtorEq, false_iff, not_and, not_not]
        exact fun h => h.symm
      · simp only [hx, if_false, Option.some.injEq]
        exact ⟨fun h => ⟨h, h ▸ hx⟩, And.left⟩
  | _ => simp [asNonEmptyStr]

/-! ## Exceptions -/

/-- The exceptions raised by the sidecar, and those of the libraries that
reach its `except` clauses. -/
inductive PyExc where
  | permanentHandlerError (msg : String)
  | retryableHandlerError (msg : String)
  | transientMetronomeError (msg : String)
  | permanentMetronomeError (msg : String) (statusCode : Option Int)
  | contractNotFoundError (msg : String)
  | mapperError (msg : String)
  | valueError (msg : String)
  | unknownTierError (msg : String)
  | overflowError (msg : String)
  | osError (msg : String)
  | integrityError (msg : String)
  | invalidRequestError (msg : String)
  /-- An exception of any other type. -/
  | otherException (name msg : String)
deriving DecidableEq, Repr

/-- `str(exc)`. -/
def PyExc.str : PyExc → String
  | .permanentHandlerError msg | .retryableHandlerError msg
  | .transientMetronomeError msg | .permanentMetronomeError msg _
  | .contractNotFoundError msg | .mapperError msg | .valueError msg
  | .unknownTierError msg | .overflowError msg | .osError msg
  | .integrityError msg | .invalidRequestError msg | .otherException _ msg => msg

/-- `type(exc).__name__`. -/
def PyExc.typeName : PyExc → String
  | .permanentHandlerError _ => "PermanentHandlerError"
  | .retryableHandlerError _ => "RetryableHandlerError"
  | .transientMetronomeError _ => "TransientMetronomeError"
  | .permanentMetronomeError _ _ => "PermanentMetronomeError"
  | .contractNotFoundError _ => "ContractNotFoundError"
  | .mapperError _ => "MapperError"
  | .valueError _ => "ValueError"
  | .unknownTierError _ => "UnknownTierError"
  | .overflowError _ => "OverflowError"
  | .osError _ => "OSError"
  | .integrityError _ => "IntegrityError"
  | .invalidRequestError _ => "InvalidRequestError"
  | .otherException name _ => name

theorem bind_eq_ok {ε α β : Type} {x : Except ε α} {f : α → Except ε β} {b : β} :
    (x >>= f) = .ok b ↔ ∃ a, x = .ok a ∧ f a = .ok b := by
  cases x with
  | error e => exact ⟨fun h => (nomatch h), fun ⟨_, h, _⟩ => (nomatch h)⟩
  | ok a => exact ⟨fun h => ⟨a, rfl, h⟩, fun ⟨_, h, hf⟩ => by cases h; exact hf⟩

theorem bind_of_eq_ok {ε α β : Type} {x : Except ε α} {a : α} (h : x = .ok a)
    (f : α → Except ε β) : (x >>= f) = f a := by
  subst h
  rfl

theorem bind_eq_error {ε α β : Type} {x : Except ε α} {f : α → Except ε β} {e : ε} :
    (x >>= f) = .error e ↔ x = .error e ∨ ∃ a, x = .ok a ∧ f a = .error e := by
  cases x with
  | error e' => exact ⟨fun h => .inl (by cases h; rfl), fun h => by
      rcases h with h | ⟨_, h, _⟩ <;> cases h
      rfl⟩
  | ok a => exact ⟨fun h => .inr ⟨a, rfl, h⟩, fun h => by
      rcases h with h | ⟨_, h, hf⟩ <;> cases h
      exact hf⟩

/-! ## Strings -/

/-- `str.isspace` for one character. -/
def isSpace (c : Char) : Bool :=
  let n := c.toNat
  (0x09 ≤ n && n ≤ 0x0d) || (0x1c ≤ n && n ≤ 0x20) || n = 0x85 || n = 0xa0 ||
    n = 0x1680 || (0x2000 ≤ n && n ≤ 0x200a) || n = 0x2028 || n = 0x2029 ||
    n = 0x202f || n = 0x205f || n = 0x3000

/-- `s.strip()`. -/
def strip (s : String) : String :=
  String.ofList ((s.toList.dropWhile isSpace).reverse.dropWhile isSpace).reverse

/-- The characters that `str.isprintable` refuses, as ranges: controls, formats,
private use and separators other than the space.  Unassigned code points, which
it refuses too, change with every version of Unicode and are taken as
printable. -/
def unprintable : List (Nat × Nat) :=
  [(0x00, 0x1f), (0x7f, 0xa0), (0xad, 0xad), (0x600, 0x605), (0x61c, 0x61c),
    (0x6dd, 0x6dd), (0x70f, 0x70f), (0x890, 0x891), (0x8e2, 0x8e2), (0x1680, 0x1680),
    (0x180e, 0x180e), (0x2000, 0x200f), (0x2028, 0x202f), (0x205f, 0x2064),
    (0x2066, 0x206f), (0x3000, 0x3000), (0xd800, 0xf8ff), (0xfeff, 0xfeff),
    (0xfff9, 0xfffb), (0x110bd, 0x110bd), (0x110cd, 0x110cd), (0x13430, 0x1343f),
    (0x1bca0, 0x1bca3), (0x1d173, 0x1d17a), (0xe0001, 0xe0001), (0xe0020, 0xe007f),
    (0xf0000, 0xffffd), (0x100000, 0x10fffd)]

/-- `c.isprintable()`. -/
def isPrintable (c : Char) : Bool :=
  !unprintable.any fun range => range.1 ≤ c.toNat && c.toNat ≤ range.2

/-- `n` in lower-case hexadecimal, with this many digits. -/
def hexDigits : Nat → Nat → List Char
  | 0, _ => []
  | width + 1, n => hexDigits width (n / 16) ++ [Nat.digitChar (n % 16)]

/-- How `repr` writes one character inside the quote `q`. -/
def reprChar (q c : Char) : List Char :=
  let n := c.toNat
  if c = '\\' || c = q then ['\\', c]
  else if c = '\n' then ['\\', 'n']
  else if c = '\r' then ['\\', 'r']
  else if c = '\t' then ['\\', 't']
  else if isPrintable c then [c]
  else if n < 0x100 then '\\' :: 'x' :: hexDigits 2 n
  else if n < 0x10000 then '\\' :: 'u' :: hexDigits 4 n
  else '\\' :: 'U' :: hexDigits 8 n

/-- `repr(s)`: single quotes unless the string holds one and no double quote. -/
def pyRepr (s : String) : String :=
  let cs := s.toList
  let q := if cs.contains '\'' && !cs.contains '"' then '"' else '\''
  String.ofList (q :: cs.flatMap (reprChar q) ++ [q])

/-! ## Time

`datetime` values are seconds since the Unix epoch, as exact rationals. -/

abbrev Time := Rat

/-- The first instant after `datetime.max`: 10000-01-01T00:00:00Z. -/
def datetimeEnd : Time := 253402300800

/-- `timedelta` holds at most 999999999 days (and the rest of that day). -/
def timedeltaEnd : Rat := 86400 * 1000000000

/-- A float as far as the sidecar can tell them apart. -/
inductive PyFloat where
  | fin (q : Rat)
  | inf
  | nan

/-- `a <= b` for the bounds pydantic checks; every comparison with NaN is
false. -/
def PyFloat.le : PyFloat → PyFloat → Bool
  | .fin a, .fin b => a ≤ b
  | .fin _, .inf => true
  | .inf, .inf => true
  | _, _ => false

/-- `min(a, b)` of two floats neither of which is NaN. -/
def PyFloat.min (a b : PyFloat) : PyFloat := if b.le a then b else a

/-- `max(1.0, x)`: `x` replaces `1.0` only if it compares greater. -/
def maxOne : PyFloat → PyFloat
  | .fin q => .fin (if 1 < q then q else 1)
  | .inf => .inf
  | .nan => .fin 1

/-- The exception of `timedelta(seconds=q)` for a `q` it cannot hold: the number
of days goes into the text if it fits a C `int`. -/
def timedeltaError (q : Rat) : PyExc :=
  if 2 ^ 31 ≤ (q / 86400).floor then
    .overflowError "Python int too large to convert to C int"
  else
    .overflowError s!"days={(q / 86400).floor}; must have magnitude <= 999999999"

/-- `now + timedelta(seconds=delay)`. -/
def addSeconds (now : Time) : PyFloat → Except PyExc Time
  | .inf => .error (.overflowError "cannot convert float infinity to integer")
  | .nan => .error (.valueError "cannot convert float NaN to integer")
  | .fin q =>
      if timedeltaEnd ≤ q then
        .error (timedeltaError q)
      else if datetimeEnd ≤ now + q then
        .error (.overflowError "date value out of range")
      else .ok (now + q)

theorem addSeconds_fin {now next : Time} {q : Rat}
    (h : addSeconds now (.fin q) = .ok next) : next = now + q := by
  unfold addSeconds at h
  by_cases hdelta : timedeltaEnd ≤ q
  · simp only [hdelta, if_true, reduceCtorEq] at h
  · by_cases hend : datetimeEnd ≤ now + q
    · simp only [hdelta, hend, if_true, if_false, reduceCtorEq] at h
    · simp only [hdelta, hend, if_false, Except.ok.injEq] at h
      exact h.symm

theorem maxOne_cases (x : PyFloat) :
    maxOne x = .inf ∨ ∃ q : Rat, 1 ≤ q ∧ maxOne x = .fin q := by
  cases x with
  | inf => exact .inl rfl
  | nan => exact .inr ⟨1, Rat.le_refl, rfl⟩
  | fin q =>
      by_cases hq : 1 < q
      · exact .inr ⟨q, Rat.le_of_lt hq, by simp [maxOne, hq]⟩
      · exact .inr ⟨1, Rat.le_refl, by simp [maxOne, hq]⟩

/-- A retry is at least one second away. -/
theorem addSeconds_maxOne {now next : Time} {x : PyFloat}
    (h : addSeconds now (maxOne x) = .ok next) :
    ∃ delay : Rat, 1 ≤ delay ∧ next = now + delay := by
  rcases maxOne_cases x with hx | ⟨q, hq, hx⟩
  · rw [hx] at h
    cases h
  · rw [hx] at h
    exact ⟨q, hq, addSeconds_fin h⟩

/-- The powers of two from here on are no floats. -/
def floatEnd : Rat := 2 ^ 1024

/-- `base * 2 ** n` for a float `base`: the integer power is converted to a
float first, which fails from `2 ** 1024` on, and the product may be infinite. -/
def timesPow2 (base : PyFloat) (n : Nat) : Except PyExc PyFloat :=
  if 1024 ≤ n then .error (.overflowError "int too large to convert to float")
  else match base with
    | .fin q => .ok (if floatEnd ≤ q * 2 ^ n then .inf else .fin (q * 2 ^ n))
    | .inf => .ok .inf
    | .nan => .ok .nan

theorem timesPow2_ok (base : PyFloat) {n : Nat} (h : n < 1024) :
    ∃ product, timesPow2 base n = .ok product := by
  unfold timesPow2
  rw [if_neg (Nat.not_le.mpr h)]
  cases base with
  | fin q => exact ⟨_, rfl⟩
  | inf => exact ⟨_, rfl⟩
  | nan => exact ⟨_, rfl⟩

end Sidecar.Ports.Python
