import Mathlib.Data.Rat.Defs
import Mathlib.Order.Basic

/-!
# Schemas over JSON

A schema reads a JSON value, or the absence of one, and returns what it parses to, if it
accepts it. The schemas are those of a validation library: strings with a check, optional
values, defaults, enumerations, arrays, booleans, positive integers, records and objects.

Which values a schema accepts is one lemma for each way to build it (`isSome_string`,
`isSome_optional`, `isSome_withDefault`, `isSome_array`).
-/

set_option autoImplicit false

namespace Motogram.Foundation

inductive Json where
  | null
  | bool (value : Bool)
  | number (value : ℚ)
  | string (text : String)
  | array (items : List Json)
  | object (fields : List (String × Json))

namespace Json

/-- The first field with a name. -/
def lookup (name : String) : List (String × Json) → Option Json
  | [] => none
  | (key, value) :: rest => if key = name then some value else lookup name rest

theorem lookup_append (name : String) (first second : List (String × Json)) :
    lookup name (first ++ second) = (lookup name first).or (lookup name second) := by
  induction first with
  | nil => rfl
  | cons field rest ih =>
    rw [List.cons_append, lookup, lookup, ih]
    split <;> rfl

/-- A field of a value; none of a value that is no object. -/
def field (json : Json) (name : String) : Option Json :=
  match json with
  | .object fields => lookup name fields
  | _ => none

/-- The fields of an object; none of a value of another kind. -/
def fields : Json → List (String × Json)
  | .object fields => fields
  | _ => []

/-- A field that is left out when it has no value. -/
def present (name : String) (value : Option Json) : List (String × Json) :=
  value.toList.map fun json => (name, json)

theorem lookup_present (name other : String) (value : Option Json) :
    lookup name (present other value) = if other = name then value else none := by
  cases value with
  | none => rw [present, Option.toList_none, List.map_nil, lookup, ite_self]
  | some json => rfl

def isObject : Json → Bool
  | .object _ => true
  | _ => false

end Json

/-- How a value, or the absence of one, is parsed. -/
abbrev Schema (α : Type) := Option Json → Option α

namespace Schema

variable {α β : Type}

def string (check : String → Bool) : Schema String
  | some (.string text) => if check text then some text else none
  | _ => none

def boolean : Schema Bool
  | some (.bool value) => some value
  | _ => none

/-- A whole number above zero. -/
def positiveInt : Schema Nat
  | some (.number value) =>
    if value.den = 1 ∧ 0 < value.num then some value.num.toNat else none
  | _ => none

/-- A whole number within bounds. -/
def natural (low high : Nat) : Schema Nat
  | some (.number value) =>
    if value.den = 1 ∧ (low : ℤ) ≤ value.num ∧ value.num ≤ high then some value.num.toNat else none
  | _ => none

def enumeration (names : List (String × α)) : Schema α
  | some (.string text) => (names.find? fun name => decide (name.1 = text)).map Prod.snd
  | _ => none

/-- Absent, or accepted. -/
def optional (schema : Schema α) : Schema (Option α)
  | none => some none
  | some value => (schema (some value)).map some

/-- The default when absent. -/
def withDefault (default : α) (schema : Schema α) : Schema α
  | none => some default
  | some value => schema (some value)

/-- At most so many items, each accepted. -/
def array (max : Nat) (item : Schema α) : Schema (List α)
  | some (.array items) =>
    if items.length ≤ max then items.mapM fun value => item (some value) else none
  | _ => none

def object : Schema Json
  | some (.object fields) => some (.object fields)
  | _ => none

/-! ## What a schema accepts -/

theorem isSome_string {check : String → Bool} {input : Option Json} :
    (string check input).isSome ↔ ∃ text, input = some (.string text) ∧ check text = true := by
  cases input with
  | none => simp [string]
  | some value =>
    cases value with
    | string text =>
      by_cases passes : check text = true
      · simp [string, passes]
      · simp [string, passes]
    | _ => simp [string]

theorem string_and (check more : String → Bool) (input : Option Json) :
    string (fun text => check text && more text) input = (string check input).filter more := by
  cases input with
  | none => rfl
  | some value =>
    cases value with
    | string text =>
      cases passes : check text with
      | false => simp [string, passes]
      | true => simp [string, passes, Option.filter]
    | _ => rfl

/-- A schema followed by another accepts what both accept. -/
theorem isSome_bind {first : Option α} {next : α → Option β} {rest : Prop}
    (same : ∀ value, first = some value → ((next value).isSome ↔ rest)) :
    (first.bind next).isSome ↔ first.isSome ∧ rest := by
  cases first with
  | none => simp
  | some value => simpa using same value rfl

/-- A schema whose value is only wrapped accepts what it accepts. -/
theorem isSome_bind_some {first : Option α} {wrap : α → β} :
    (first.bind fun value => some (wrap value)).isSome ↔ first.isSome := by
  cases first <;> simp

variable {max : Nat} {item schema : Schema α}

theorem isSome_optional {input : Option Json} :
    (optional schema input).isSome ↔ ∀ value, input = some value → (schema (some value)).isSome := by
  cases input with
  | none | some => simp [optional]

theorem isSome_withDefault {default : α} {schema : Schema α} {input : Option Json} :
    (withDefault default schema input).isSome ↔ ∀ value, input = some value → (schema (some value)).isSome := by
  cases input with
  | none | some => simp [withDefault]

theorem isSome_mapM {item : β → Option α} {items : List β} :
    (items.mapM item).isSome ↔ ∀ value ∈ items, (item value).isSome := by
  induction items with
  | nil => simp
  | cons value items ih =>
    rw [List.mapM_cons, List.forall_mem_cons, ← ih]
    cases item value with
    | none => simp
    | some parsed =>
      cases items.mapM item with
      | none | some => simp

theorem isSome_array {input : Option Json} :
    (array max item input).isSome ↔
      ∃ items, input = some (.array items) ∧ items.length ≤ max ∧
        ∀ value ∈ items, (item (some value)).isSome := by
  cases input with
  | none => simp [array]
  | some value =>
    cases value with
    | array items =>
      by_cases short : items.length ≤ max
      · simp [array, short, isSome_mapM]
      · simp [array, short]
    | _ => simp [array]

theorem isSome_enumeration {names : List (String × α)} {input : Option Json} :
    (enumeration names input).isSome ↔ ∃ text, input = some (.string text) ∧ text ∈ names.map Prod.fst := by
  cases input with
  | none => simp [enumeration]
  | some value =>
    cases value with
    | string text =>
      simp only [enumeration, Option.isSome_map, List.find?_isSome, decide_eq_true_eq,
        Option.some.injEq, Json.string.injEq, exists_eq_left', List.mem_map]
    | _ => simp [enumeration]

theorem enumeration_eq_some {names : List (String × α)} {input : Option Json} {value : α}
    (read : enumeration names input = some value) :
    ∃ text, input = some (.string text) ∧ (text, value) ∈ names := by
  cases input with
  | none => cases read
  | some json =>
    cases json with
    | string text =>
      obtain ⟨⟨name, found⟩, here, same⟩ := Option.map_eq_some_iff.mp read
      have named := List.find?_some here
      simp only [decide_eq_true_eq] at named
      subst named
      cases same
      exact ⟨_, rfl, List.mem_of_find?_eq_some here⟩
    | _ => cases read

/-! ## What a schema parses to -/

theorem string_eq_some {check : String → Bool} {input : Option Json} {text : String} :
    string check input = some text ↔ input = some (.string text) ∧ check text = true := by
  cases input with
  | none => simp [string]
  | some value =>
    cases value with
    | string given =>
      by_cases passes : check given = true
      · simp only [string, if_pos passes, Option.some.injEq, Json.string.injEq]
        constructor
        · rintro rfl
          exact ⟨rfl, passes⟩
        · exact And.left
      · simp only [string, if_neg passes, Option.some.injEq, Json.string.injEq]
        refine iff_of_false nofun ?_
        rintro ⟨rfl, passed⟩
        exact passes passed
    | _ => simp [string]

theorem natural_eq_some {low high : Nat} {input : Option Json} {number : Nat}
    (read : natural low high input = some number) : low ≤ number ∧ number ≤ high := by
  unfold natural at read
  split at read
  · split at read
    · cases read
      omega
    · cases read
  · cases read

theorem optional_eq_some {input : Option Json} {value : Option α} :
    optional schema input = some value →
      (input = none ∧ value = none) ∨ ∃ read, value = some read ∧ schema input = some read := by
  intro read
  cases input with
  | none =>
    cases read
    exact .inl ⟨rfl, rfl⟩
  | some json =>
    obtain ⟨inner, parsed, rfl⟩ := Option.map_eq_some_iff.mp read
    exact .inr ⟨inner, rfl, parsed⟩

theorem mapM_eq_some {item : β → Option α} {items : List β} {values : List α}
    (read : items.mapM item = some values) :
    values.length = items.length ∧ ∀ value ∈ values, ∃ json ∈ items, item json = some value := by
  induction items generalizing values with
  | nil =>
    cases read
    exact ⟨rfl, fun _ => nofun⟩
  | cons json items ih =>
    rw [List.mapM_cons] at read
    obtain ⟨first, here, later⟩ := Option.bind_eq_some_iff.mp read
    obtain ⟨rest, there, whole⟩ := Option.bind_eq_some_iff.mp later
    cases whole
    obtain ⟨lengths, members⟩ := ih there
    refine ⟨congrArg (· + 1) lengths, ?_⟩
    intro value member
    obtain rfl | deeper := List.mem_cons.mp member
    · exact ⟨json, List.mem_cons_self .., here⟩
    · obtain ⟨other, among, same⟩ := members value deeper
      exact ⟨other, List.mem_cons_of_mem _ among, same⟩

theorem array_eq_some {input : Option Json} {values : List α} (read : array max item input = some values) :
    values.length ≤ max ∧ ∀ value ∈ values, ∃ json, item (some json) = some value := by
  unfold array at read
  split at read
  · split at read
    · rename_i short
      obtain ⟨lengths, members⟩ := mapM_eq_some read
      refine ⟨lengths ▸ short, fun value member => ?_⟩
      obtain ⟨json, -, same⟩ := members value member
      exact ⟨json, same⟩
    · cases read
  · cases read

/-! ## What is written is accepted -/

theorem natural_of_le {low high number : Nat} (above : low ≤ number) (below : number ≤ high) :
    natural low high (some (.number number)) = some number := by
  have whole : (number : ℚ).den = 1 := Rat.den_natCast number
  have numerator : (number : ℚ).num = number := Rat.num_natCast number
  rw [natural, if_pos]
  · rw [numerator, Int.toNat_natCast]
  · exact ⟨whole, Int.ofNat_le.mpr above, Int.ofNat_le.mpr below⟩

theorem array_of_forall {write : α → Json} {values : List α} (short : values.length ≤ max)
    (each : ∀ value ∈ values, item (some (write value)) = some value) :
    array max item (some (.array (values.map write))) = some values := by
  have read : (values.map write).mapM (fun json => item (some json)) = some values := by
    clear short
    induction values with
    | nil => rfl
    | cons value values ih =>
      rw [List.map_cons, List.mapM_cons, each value (List.mem_cons_self ..),
        ih fun other member => each other (List.mem_cons_of_mem _ member)]
      rfl
  rw [array, if_pos (by rwa [List.length_map]), read]

theorem optional_map (write : α → Json) {value : Option α}
    (each : ∀ given, value = some given → schema (some (write given)) = some given) :
    optional schema (value.map write) = some value := by
  cases value with
  | none => rfl
  | some given =>
    rw [Option.map_some, optional, each given rfl]
    rfl

end Schema

end Motogram.Foundation
