import Nefi.Model.Event

/-!
# The API's query parameters

The read endpoints of package `api` take their filters from the URL's query string:
`parseEventQuery` and `parseMetricQuery` copy `service`, `namespace` and `step` as they are, read
`start` and `end` with `parseTimeParam`, and read `limit` with `parseIntParam`.

* `parseTimeParam` tries RFC 3339, then a Unix time in seconds, then a Unix time in milliseconds,
  and falls back to the zero `time.Time`.  The last two tries call the same
  `strconv.ParseInt(raw, 10, 64)`, so the third can only run when the second has just failed on
  the same string, and then fails too: a millisecond timestamp is read as seconds.
* `parseIntParam` reads a decimal `int` with `strconv.Atoi` and keeps the default for a blank
  parameter, a parse error, or a value that is not positive.

## What is modelled

`url.Values.Get` is a function from keys to values, `""` for an absent key (`Query`).
`time.Parse(time.RFC3339, raw)` is a parameter: the instant it returns, or `none` for an error.
`strconv.ParseUint` and `strconv.ParseInt` are modelled for base 10 and 64 bits as the standard
library documents and implements them (`Atoi` is documented as `ParseInt(s, 10, 0)` converted to
`int`, which has 64 bits on the targets the server is built for); each returns `none` for a syntax
and for a range error alike, since the callers only test `err != nil`.

## Results

* `parseUint_eq_some`: `ParseUint` accepts exactly the non-empty strings of decimal digits whose
  value is below `2^64`, and returns that value.
* `parseInt_mem_range`: `ParseInt` only returns `int64` values.
* `parseTimeParam_eq`: `parseTimeParam` is RFC 3339, else seconds, else the zero time; its
  millisecond branch never runs.
* `limit_parseEventQuery`: the limit of every event query is a positive `int64`.
-/

namespace Nefi
namespace Api

/-- `url.Values.Get`: the value of a key, `""` when it is absent. -/
abbrev Query := GoString → GoString

/-! ## `strconv` -/

/-- Whether a byte is one of `'0'` to `'9'`. -/
def isDigit (c : UInt8) : Bool := 48 ≤ c && c ≤ 57

/-- The value of a string of decimal digits, most significant first, read onto `acc`. -/
def decimalValue (acc : Nat) (s : GoString) : Nat :=
  s.foldl (fun n c => n * 10 + (c.toNat - 48)) acc

/-- One pass of `ParseUint`'s loop in base 10 with 64 bits: a digit is appended, any other byte is a
syntax error, and the two overflow checks of the loop together reject a value past `2^64 - 1`. -/
def parseUintStep (acc : Option Nat) (c : UInt8) : Option Nat := do
  let n ← acc
  if isDigit c then
    let n1 := n * 10 + (c.toNat - 48)
    if n1 < 2 ^ 64 then some n1 else none
  else none

/-- `strconv.ParseUint(s, 10, 64)`. -/
def parseUint (s : GoString) : Option Nat :=
  if s = [] then none else s.foldl parseUintStep (some 0)

/-- `strconv.ParseInt(s, 10, 64)`: a leading `'+'` or `'-'` is picked off, the rest is read by
`ParseUint`, and the value is checked against the `int64` range. -/
def parseInt (s : GoString) : Option Int :=
  match s with
  | [] => none
  | c :: rest =>
    let (neg, digits) :=
      if c = '+'.toNat.toUInt8 then (false, rest)
      else if c = '-'.toNat.toUInt8 then (true, rest)
      else (false, c :: rest)
    match parseUint digits with
    | none => none
    | some un =>
      if !neg && 2 ^ 63 ≤ un then none
      else if neg && 2 ^ 63 < un then none
      else some (if neg then -(un : Int) else un)

theorem foldl_parseUintStep_none (s : GoString) : s.foldl parseUintStep none = none := by
  induction s with
  | nil => rfl
  | cons c s ih => exact ih

theorem le_decimalValue (acc : Nat) (s : GoString) : acc ≤ decimalValue acc s := by
  induction s generalizing acc with
  | nil => exact le_rfl
  | cons c s ih => exact (by omega : acc ≤ acc * 10 + (c.toNat - 48)).trans (ih _)

/-- The loop of `ParseUint` from a value below `2^64` reads the digits onto it, as long as all
are digits and the value stays below `2^64`. -/
theorem foldl_parseUintStep (s : GoString) {acc : Nat} (hacc : acc < 2 ^ 64) :
    s.foldl parseUintStep (some acc) =
      if (∀ c ∈ s, isDigit c) ∧ decimalValue acc s < 2 ^ 64 then some (decimalValue acc s)
      else none := by
  induction s generalizing acc with
  | nil => simpa [decimalValue] using hacc
  | cons c s ih =>
    rw [List.foldl_cons, decimalValue, List.foldl_cons, ← decimalValue]
    by_cases hc : isDigit c
    · by_cases hn : acc * 10 + (c.toNat - 48) < 2 ^ 64
      · have hstep : parseUintStep (some acc) c = some (acc * 10 + (c.toNat - 48)) := by
          simp only [parseUintStep, hc, if_true, Option.pure_def, Option.bind_eq_bind,
            Option.some_bind, if_pos hn]
        rw [hstep, ih hn]
        simp [hc]
      · have hstep : parseUintStep (some acc) c = none := by
          simp only [parseUintStep, hc, if_true, Option.pure_def, Option.bind_eq_bind,
            Option.some_bind, if_neg hn]
        have := le_decimalValue (acc * 10 + (c.toNat - 48)) s
        rw [hstep, foldl_parseUintStep_none, if_neg]
        omega
    · simp [parseUintStep, hc, foldl_parseUintStep_none]

/-- **`ParseUint` accepts exactly the non-empty strings of decimal digits whose value is below
`2^64`**, and returns that value. -/
theorem parseUint_eq_some {s : GoString} {n : Nat} :
    parseUint s = some n ↔
      s ≠ [] ∧ (∀ c ∈ s, isDigit c) ∧ decimalValue 0 s = n ∧ n < 2 ^ 64 := by
  unfold parseUint
  by_cases hs : s = []
  · simp [hs]
  · rw [if_neg hs, foldl_parseUintStep s (by decide)]
    split_ifs with h
    · simp only [Option.some.injEq]
      constructor
      · rintro rfl
        exact ⟨hs, h.1, rfl, h.2⟩
      · rintro ⟨-, -, rfl, -⟩
        rfl
    · simp only [reduceCtorEq, false_iff]
      rintro ⟨-, hd, rfl, hn⟩
      exact h ⟨hd, hn⟩

/-- The range check that ends `ParseInt` only lets `int64` values through. -/
theorem mem_range_of_int64Check {neg : Bool} {un : Nat} {n : Int}
    (h : (if !neg && 2 ^ 63 ≤ un then none
      else if neg && 2 ^ 63 < un then none
      else some (if neg then -(un : Int) else un)) = some n) :
    -2 ^ 63 ≤ n ∧ n < 2 ^ 63 := by
  cases neg <;>
    simp only [Bool.not_false, Bool.not_true, Bool.true_and, Bool.false_and, decide_eq_true_eq,
      Bool.false_eq_true, if_false, if_true] at h <;>
    split_ifs at h <;> cases h <;> omega

/-- **`ParseInt` only returns `int64` values.** -/
theorem parseInt_mem_range {s : GoString} {n : Int} (h : parseInt s = some n) :
    -2 ^ 63 ≤ n ∧ n < 2 ^ 63 := by
  match s, h with
  | c :: rest, h =>
    simp only [parseInt] at h
    split at h
    · cases h
    · exact mem_range_of_int64Check h

/-! ## The parameters -/

namespace Time

/-- `time.Time{}`: January 1 of year 1, 00:00 UTC, 62135596800 seconds before the epoch. -/
def zero : Nefi.Time := ⟨-62135596800 * 10 ^ 9⟩

/-- `time.Unix(sec, 0)`. -/
def unixSec (sec : Int) : Nefi.Time := ⟨sec * 10 ^ 9⟩

/-- `time.UnixMilli(msec)`. -/
def unixMilli (msec : Int) : Nefi.Time := ⟨msec * 10 ^ 6⟩

end Time

/-- `parseTimeParam`, with `rfc3339` for `time.Parse(time.RFC3339, ·)`. -/
def parseTimeParam (rfc3339 : GoString → Option Nefi.Time) (query : Query) (key : GoString) :
    Nefi.Time :=
  let raw := query key
  if raw = [] then Time.zero
  else
    match rfc3339 raw with
    | some t => t
    | none =>
      match parseInt raw with
      | some sec => Time.unixSec sec
      | none =>
        match parseInt raw with
        | some ms => Time.unixMilli ms
        | none => Time.zero

/-- **The millisecond branch of `parseTimeParam` never runs**: a parameter that is not RFC 3339
is read as a Unix time in seconds or not at all. -/
theorem parseTimeParam_eq (rfc3339 : GoString → Option Nefi.Time) (query : Query)
    (key : GoString) :
    parseTimeParam rfc3339 query key =
      if query key = [] then Time.zero
      else ((rfc3339 (query key)).getD
        ((parseInt (query key)).elim Time.zero Time.unixSec)) := by
  unfold parseTimeParam
  dsimp only
  split_ifs
  · rfl
  · rcases rfc3339 (query key) with _ | t
    · rcases parseInt (query key) with _ | v <;> rfl
    · rfl

/-- `parseIntParam`. -/
def parseIntParam (query : Query) (key : GoString) (defaultVal : Int) : Int :=
  let raw := query key
  if raw = [] then defaultVal
  else
    match parseInt raw with
    | none => defaultVal
    | some val => if val ≤ 0 then defaultVal else val

/-- A parameter read with a positive `int64` default is a positive `int64`. -/
theorem parseIntParam_mem (query : Query) (key : GoString) {defaultVal : Int}
    (h₀ : 0 < defaultVal) (h₁ : defaultVal < 2 ^ 63) :
    0 < parseIntParam query key defaultVal ∧ parseIntParam query key defaultVal < 2 ^ 63 := by
  unfold parseIntParam
  dsimp only
  split_ifs
  · exact ⟨h₀, h₁⟩
  · split
    · exact ⟨h₀, h₁⟩
    · rename_i val hval
      split_ifs with hv
      · exact ⟨h₀, h₁⟩
      · exact ⟨not_le.mp hv, (parseInt_mem_range hval).2⟩

/-- `model.EventQuery`. -/
structure EventQuery where
  service : GoString := []
  «namespace» : GoString := []
  startTime : Nefi.Time
  endTime : Nefi.Time
  limit : Int := 0
  source : GoString := []
  destination : GoString := []
  deriving DecidableEq

/-- `model.MetricQuery`. -/
structure MetricQuery where
  service : GoString := []
  «namespace» : GoString := []
  startTime : Nefi.Time
  endTime : Nefi.Time
  step : GoString := []
  deriving DecidableEq

/-- `parseEventQuery`. -/
def parseEventQuery (rfc3339 : GoString → Option Nefi.Time) (query : Query) : EventQuery :=
  { service := query "service"
    «namespace» := query "namespace"
    startTime := parseTimeParam rfc3339 query "start"
    endTime := parseTimeParam rfc3339 query "end"
    limit := parseIntParam query "limit" 100 }

/-- `parseMetricQuery`. -/
def parseMetricQuery (rfc3339 : GoString → Option Nefi.Time) (query : Query) : MetricQuery :=
  { service := query "service"
    «namespace» := query "namespace"
    startTime := parseTimeParam rfc3339 query "start"
    endTime := parseTimeParam rfc3339 query "end"
    step := query "step" }

/-- **Every event query's limit is a positive `int64`**, whatever the query string holds. -/
theorem limit_parseEventQuery (rfc3339 : GoString → Option Nefi.Time) (query : Query) :
    0 < (parseEventQuery rfc3339 query).limit ∧ (parseEventQuery rfc3339 query).limit < 2 ^ 63 :=
  parseIntParam_mem query "limit" (by decide) (by decide)

end Api
end Nefi
