import Spreadsheet.Json.Parser
import Spreadsheet.Json.Record
import Spreadsheet.Proofs.Json.Lexemes

namespace Spreadsheet.Json
open JsonToken (tokens Stops stops_nil stops_separator tokens_nil tokens_blanks tokens_newline
  tokens_symbol tokens_quote tokens_toDigits tokens_word)

/-! ## Layout -/

inductive Faithful : Json → Prop
  | null : Faithful .null
  | boolean (b : Bool) : Faithful (.boolean b)
  | natural {n : Nat} (small : n < JsonToken.naturalBound) : Faithful (.natural n)
  | text (s : String) : Faithful (.text (some s))
  | array {items : List Json} (all : ∀ item ∈ items, Faithful item) : Faithful (.array items)
  | object {fields : List (Option String × Json)} (keyed : ∀ field ∈ fields, field.1.isSome = true)
      (all : ∀ field ∈ fields, Faithful field.2) : Faithful (.object fields)

theorem Faithful.record {fields : List (String × Json)} (all : ∀ field ∈ fields, Faithful field.2) :
    Faithful (.record fields) :=
  .object (List.forall_mem_map.2 fun _ _ => rfl) (List.forall_mem_map.2 all)

mutual

def toTokens : Json → List JsonToken
  | null => [.null]
  | boolean b => [.boolean b]
  | natural n => [.natural n]
  | otherNumber => [.otherNumber]
  | text s => [.text s]
  | array [] => [.openBracket, .closeBracket]
  | array (item :: rest) => .openBracket :: toTokens item ++ itemTokens rest
  | object [] => [.openBrace, .closeBrace]
  | object ((key, value) :: rest) =>
    .openBrace :: .text key :: .colon :: toTokens value ++ fieldTokens rest

def itemTokens : List Json → List JsonToken
  | [] => [.closeBracket]
  | item :: rest => .comma :: toTokens item ++ itemTokens rest

def fieldTokens : List (Option String × Json) → List JsonToken
  | [] => [.closeBrace]
  | (key, value) :: rest => .comma :: .text key :: .colon :: toTokens value ++ fieldTokens rest

end

def Spelled (j : Json) : Prop :=
  ∀ (depth : Nat) {rest : List Char} {ts : List JsonToken}, Stops rest → tokens rest = some ts →
    tokens (j.prettyAt depth ++ rest) = some (j.toTokens ++ ts)

section
variable {rest : List Char} {ts : List JsonToken} (behind : tokens rest = some ts)
include behind

theorem tokens_field {key : Option String} (keyed : key.isSome = true) :
    tokens (quote key ++ (": ".toList ++ rest)) = some (.text key :: .colon :: ts) := by
  obtain ⟨s, rfl⟩ := Option.isSome_iff_exists.1 keyed
  have blank : tokens (' ' :: rest) = some ts := by
    rw [← behind]
    exact tokens_blanks (List.forall_mem_singleton.2 rfl) rest
  have colon : tokens (": ".toList ++ rest) = some (.colon :: ts) := tokens_symbol blank rfl
  exact tokens_quote colon s

theorem tokens_prettyItems {items : List Json} (all : ∀ item ∈ items, Spelled item)
    (depth depth' : Nat) :
    Stops (prettyItems depth items ++ (newline depth' ++ ']' :: rest)) ∧
    tokens (prettyItems depth items ++ (newline depth' ++ ']' :: rest)) =
      some (itemTokens items ++ ts) := by
  induction items with
  | nil => exact ⟨stops_separator (.inr rfl) _, tokens_newline (tokens_symbol behind rfl) depth'⟩
  | cons item items ih =>
      obtain ⟨stops, later⟩ := ih fun item' mem => all item' (List.mem_cons_of_mem _ mem)
      have first := all item List.mem_cons_self depth stops later
      rw [prettyItems, itemTokens]
      simp only [List.cons_append, List.append_assoc]
      exact ⟨stops_separator (.inl rfl) _, tokens_symbol (tokens_newline first depth) rfl⟩

theorem tokens_prettyFields {fields : List (Option String × Json)}
    (keyed : ∀ field ∈ fields, field.1.isSome = true) (all : ∀ field ∈ fields, Spelled field.2)
    (depth depth' : Nat) :
    Stops (prettyFields depth fields ++ (newline depth' ++ '\x7d' :: rest)) ∧
    tokens (prettyFields depth fields ++ (newline depth' ++ '\x7d' :: rest)) =
      some (fieldTokens fields ++ ts) := by
  induction fields with
  | nil => exact ⟨stops_separator (.inr rfl) _, tokens_newline (tokens_symbol behind rfl) depth'⟩
  | cons field fields ih =>
      obtain ⟨key, value⟩ := field
      obtain ⟨keyedFirst, keyedLater⟩ := List.forall_mem_cons.1 keyed
      obtain ⟨valueFirst, valuesLater⟩ := List.forall_mem_cons.1 all
      obtain ⟨stops, later⟩ := ih keyedLater valuesLater
      have first := tokens_field (valueFirst depth stops later) keyedFirst
      rw [prettyFields, fieldTokens]
      simp only [List.cons_append, List.append_assoc]
      exact ⟨stops_separator (.inl rfl) _, tokens_symbol (tokens_newline first depth) rfl⟩

end

theorem Faithful.spelled {j : Json} (h : Faithful j) : Spelled j := by
  induction h with
  | null =>
      intro depth rest ts stops behind
      exact tokens_word behind (by simp [JsonToken.words])
  | boolean b =>
      intro depth rest ts stops behind
      cases b
      · exact tokens_word behind (by simp [JsonToken.words])
      · exact tokens_word behind (by simp [JsonToken.words])
  | natural small => exact fun depth rest ts stops behind => tokens_toDigits behind stops small
  | text s => exact fun depth rest ts stops behind => tokens_quote behind s
  | @array items all ih =>
      intro depth rest ts stops behind
      cases items with
      | nil => exact tokens_symbol (tokens_symbol behind rfl) rfl
      | cons item items =>
          obtain ⟨first, others⟩ := List.forall_mem_cons.1 ih
          obtain ⟨stops', later⟩ := tokens_prettyItems behind others (depth + 1) depth
          have opened := tokens_newline (first (depth + 1) stops' later) (depth + 1)
          rw [prettyAt, toTokens]
          simp only [List.cons_append, List.append_assoc, List.nil_append]
          exact tokens_symbol opened rfl
  | @object fields keyed all ih =>
      intro depth rest ts stops behind
      cases fields with
      | nil => exact tokens_symbol (tokens_symbol behind rfl) rfl
      | cons field fields =>
          obtain ⟨key, value⟩ := field
          obtain ⟨keyedFirst, keyedLater⟩ := List.forall_mem_cons.1 keyed
          obtain ⟨first, others⟩ := List.forall_mem_cons.1 ih
          obtain ⟨stops', later⟩ := tokens_prettyFields behind keyedLater others (depth + 1) depth
          have named := tokens_field (first (depth + 1) stops' later) keyedFirst
          have opened := tokens_newline named (depth + 1)
          rw [prettyAt, toTokens]
          simp only [List.cons_append, List.append_assoc, List.nil_append]
          exact tokens_symbol opened rfl

/-! ## Grammar -/

def Understood (j : Json) : Prop :=
  ∀ ts, ∃ fewer, parseValue (j.toTokens ++ ts) = some (j, ⟨ts, fewer⟩)

theorem parseItems_itemTokens {items : List Json} (all : ∀ item ∈ items, Understood item)
    (ts : List JsonToken) :
    ∃ fewer, parseItems (itemTokens items ++ ts) = some (items, ⟨ts, fewer⟩) := by
  induction items with
  | nil =>
      have front : itemTokens [] ++ ts = .closeBracket :: ts := by
        rw [itemTokens, List.singleton_append]
      rw [front]
      exact ⟨Nat.lt_succ_self _, by rw [parseItems]⟩
  | cons item items ih =>
      obtain ⟨fewer, later⟩ := ih fun item' mem => all item' (List.mem_cons_of_mem _ mem)
      obtain ⟨fewer', first⟩ := all item List.mem_cons_self (itemTokens items ++ ts)
      have front : itemTokens (item :: items) ++ ts =
          .comma :: (item.toTokens ++ (itemTokens items ++ ts)) := by
        rw [itemTokens, List.cons_append, List.cons_append, List.append_assoc]
      rw [front]
      refine ⟨Nat.lt_succ_of_lt (fewer.trans fewer'), ?_⟩
      rw [parseItems, first]
      simp only [Option.bind_eq_bind, Option.bind_some, later]
      rfl

theorem parseField_key {value : Json} (understood : Understood value) (key : Option String)
    (ts : List JsonToken) :
    ∃ fewer, parseField (.text key :: .colon :: (value.toTokens ++ ts)) =
      some ((key, value), ⟨ts, fewer⟩) := by
  obtain ⟨fewer, read⟩ := understood ts
  refine ⟨Nat.lt_succ_of_lt (Nat.lt_succ_of_lt fewer), ?_⟩
  rw [parseField, read]
  rfl

theorem parseFields_fieldTokens {fields : List (Option String × Json)}
    (all : ∀ field ∈ fields, Understood field.2) (ts : List JsonToken) :
    ∃ fewer, parseFields (fieldTokens fields ++ ts) = some (fields, ⟨ts, fewer⟩) := by
  induction fields with
  | nil =>
      have front : fieldTokens [] ++ ts = .closeBrace :: ts := by
        rw [fieldTokens, List.singleton_append]
      rw [front]
      exact ⟨Nat.lt_succ_self _, by rw [parseFields]⟩
  | cons field fields ih =>
      obtain ⟨key, value⟩ := field
      obtain ⟨understood, values⟩ := List.forall_mem_cons.1 all
      obtain ⟨fewer, later⟩ := ih values
      obtain ⟨fewer', first⟩ := parseField_key understood key (fieldTokens fields ++ ts)
      have front : fieldTokens ((key, value) :: fields) ++ ts =
          .comma :: .text key :: .colon :: (value.toTokens ++ (fieldTokens fields ++ ts)) := by
        rw [fieldTokens]
        simp only [List.cons_append, List.append_assoc]
      rw [front]
      refine ⟨Nat.lt_succ_of_lt (fewer.trans fewer'), ?_⟩
      rw [parseFields, first]
      simp only [Option.bind_eq_bind, Option.bind_some, later]
      rfl

theorem toTokens_ne_closeBracket (j : Json) (ts rest : List JsonToken) :
    j.toTokens ++ ts = .closeBracket :: rest → False := by
  unfold toTokens
  split <;> simp

theorem understood_single {j : Json} {t : JsonToken} (single : j.toTokens = [t])
    (read : ∀ ts, parseValue (t :: ts) = some (j, ⟨ts, Nat.lt_succ_self _⟩)) : Understood j := by
  intro ts
  rw [single]
  exact ⟨_, read ts⟩

theorem understood_array {items : List Json} (all : ∀ item ∈ items, Understood item) :
    Understood (array items) := by
  intro ts
  cases items with
  | nil =>
      have front : (array []).toTokens ++ ts = .openBracket :: .closeBracket :: ts := by
        rw [toTokens, List.cons_append, List.singleton_append]
      rw [front]
      exact ⟨Nat.lt_succ_of_lt (Nat.lt_succ_self _), by rw [parseValue]⟩
  | cons item items =>
      obtain ⟨first, others⟩ := List.forall_mem_cons.1 all
      obtain ⟨fewer, later⟩ := parseItems_itemTokens others ts
      obtain ⟨fewer', read⟩ := first (itemTokens items ++ ts)
      have front : (array (item :: items)).toTokens ++ ts =
          .openBracket :: (item.toTokens ++ (itemTokens items ++ ts)) := by
        rw [toTokens, List.cons_append, List.cons_append, List.append_assoc]
      rw [front]
      refine ⟨Nat.lt_succ_of_lt (fewer.trans fewer'), ?_⟩
      rw [parseValue, read]
      · simp only [Option.bind_eq_bind, Option.bind_some, later]
        rfl
      · exact toTokens_ne_closeBracket item _

theorem understood_object {fields : List (Option String × Json)}
    (all : ∀ field ∈ fields, Understood field.2) : Understood (object fields) := by
  intro ts
  cases fields with
  | nil =>
      have front : (object []).toTokens ++ ts = .openBrace :: .closeBrace :: ts := by
        rw [toTokens, List.cons_append, List.singleton_append]
      rw [front]
      exact ⟨Nat.lt_succ_of_lt (Nat.lt_succ_self _), by rw [parseValue]⟩
  | cons field fields =>
      obtain ⟨key, value⟩ := field
      obtain ⟨first, others⟩ := List.forall_mem_cons.1 all
      obtain ⟨fewer, later⟩ := parseFields_fieldTokens others ts
      obtain ⟨fewer', read⟩ := parseField_key first key (fieldTokens fields ++ ts)
      have front : (object ((key, value) :: fields)).toTokens ++ ts =
          .openBrace :: .text key :: .colon :: (value.toTokens ++ (fieldTokens fields ++ ts)) := by
        rw [toTokens]
        simp only [List.cons_append, List.append_assoc]
      rw [front]
      refine ⟨Nat.lt_succ_of_lt (fewer.trans fewer'), ?_⟩
      rw [parseValue, read]
      · simp only [Option.bind_eq_bind, Option.bind_some, later]
        rfl
      · exact fun _ same => by cases same

theorem Faithful.understood {j : Json} (h : Faithful j) : Understood j := by
  induction h with
  | null => exact understood_single (by rw [toTokens]) fun ts => by rw [parseValue]
  | boolean b => exact understood_single (by rw [toTokens]) fun ts => by rw [parseValue]
  | natural small => exact understood_single (by rw [toTokens]) fun ts => by rw [parseValue]
  | text s => exact understood_single (by rw [toTokens]) fun ts => by rw [parseValue]
  | array _ ih => exact understood_array ih
  | object _ _ ih => exact understood_object ih

theorem Faithful.parse_pretty {j : Json} (h : Faithful j) : parse j.pretty = some j := by
  have spelled := h.spelled 0 stops_nil tokens_nil
  rw [List.append_nil (j.prettyAt 0)] at spelled
  obtain ⟨fewer, understood⟩ := h.understood []
  rw [parse, pretty, String.toList_ofList, spelled]
  simp only [Option.bind_eq_bind, Option.bind_some, understood]
  rfl

end Spreadsheet.Json
