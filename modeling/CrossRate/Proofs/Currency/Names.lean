import CrossRate.Currency.Names
import CrossRate.Proofs.OrderedMap.Keys
import CrossRate.Proofs.Text.Words
import Mathlib.Data.List.Dedup

/-!
# Look-ups of currency names

A registry is a map on the normal forms of names: a name has the currency that was given last to a
name of its normal form, and there are as many names as normal forms (`CurrencyNames.ActsAsMap`).
The normal form does not depend on the case of ASCII letters, nor on the blanks at the ends and at
the breaks between words (`CurrencyNames.normalForm_congr`).
-/

namespace CrossRate.CurrencyNames

/-- The normal form of a text that consists of words. -/
theorem normalForm_of_isSpaced {words : List (List Char)} {s : String}
    (spaced : Text.IsSpaced words s.toList) :
  normalForm s = Text.lower (String.ofList ([' '].intercalate words))
  := by rw [normalForm, Text.words, Text.wordsFrom_eq_of_isSpaced spaced]

/-- Texts that differ in form only have the same normal form. -/
theorem normalForm_congr {s t : String} (differ : Text.DifferInForm s t) :
  normalForm s = normalForm t
  := by
  have joined := congrArg (List.intercalate [' ']) (Text.differInForm_iff.1 differ)
  have blank : [' '].map Char.toLower = [' '] := rfl
  rw [← blank, ← Text.map_intercalate, ← Text.map_intercalate] at joined
  have lowered := congrArg (Text.lowerAfter ([].map Char.toLower)) joined
  rw [Text.lowerAfter_toLower, Text.lowerAfter_toLower] at lowered
  rw [normalForm, normalForm, Text.lower, Text.lower, String.toList_ofList, String.toList_ofList,
    lowered]

theorem lookup_insert (names : CurrencyNames) (given : String) (currency : Currency)
    (name : String) :
  (names.insert given currency).lookup name
    = if normalForm name = normalForm given then some currency else names.lookup name
  := by rw [lookup, insert, OrderedMap.get?_insert, lookup]

/-- Give names to currencies, one after the other. -/
def insertAll (names : CurrencyNames) (given : List (String × Currency)) : CurrencyNames :=
  given.foldl (fun names e => names.insert e.1 e.2) names

/-- A name has the currency that was given last to a name of its normal form. -/
theorem lookup_insertAll (names : CurrencyNames) (given : List (String × Currency))
    (name : String) :
  (names.insertAll given).lookup name
    = ((given.reverse.find? (fun e => normalForm e.1 = normalForm name)).map (·.2)).or
        (names.lookup name)
  := by
  induction given generalizing names with
  | nil => rfl
  | cons e given ih =>
    rw [insertAll, List.foldl_cons, ← insertAll, ih, List.reverse_cons, List.find?_append,
      lookup_insert]
    cases given.reverse.find? (fun e => normalForm e.1 = normalForm name) with
    | some last => simp
    | none =>
      rw [List.find?_singleton]
      by_cases same : normalForm e.1 = normalForm name
      · simp [same]
      · simp [same, Ne.symm same]

/-- A name has a currency if it is one of those that were given to currencies. -/
theorem isSome_lookup_insertAll {given : List (String × Currency)} {name : String}
    (known : ∃ e ∈ given, normalForm name = normalForm e.1) (names : CurrencyNames) :
  ((names.insertAll given).lookup name).isSome = true
  := by
  obtain ⟨e, mem, same⟩ := known
  rw [lookup_insertAll, Option.isSome_or, Option.isSome_map, Bool.or_eq_true, List.find?_isSome]
  left
  exact ⟨e, List.mem_reverse.2 mem, by simpa using same.symm⟩

/-- The keys of a registry are the normal forms of the names that were given to currencies. -/
theorem contains_insertAll (names : CurrencyNames) (given : List (String × Currency))
    (form : String) :
  (names.insertAll given).byName.contains form = true
    ↔ names.byName.contains form = true ∨ form ∈ given.map (normalForm ·.1)
  := by
  induction given generalizing names with
  | nil => simp [insertAll]
  | cons e given ih =>
    rw [insertAll, List.foldl_cons, ← insertAll, ih, insert, OrderedMap.contains_insert,
      Bool.or_eq_true, decide_eq_true_eq, List.map_cons, List.mem_cons, ← or_assoc]
    simp only [or_comm]

theorem size_insertAll (given : List (String × Currency)) :
  (empty.insertAll given).size = (given.map (normalForm ·.1)).dedup.length
  := by
  have forms (form : String) : form ∈ (empty.insertAll given).byName.keys
      ↔ form ∈ (given.map (normalForm ·.1)).dedup := by
    rw [← OrderedMap.contains_iff_mem_keys, contains_insertAll, List.mem_dedup]
    simp [empty]
  have distinct := (List.perm_ext_iff_of_nodup (OrderedMap.nodup_keys _) (List.nodup_dedup _)).2
    forms
  rw [← distinct.length_eq, size, OrderedMap.size, OrderedMap.keys, List.length_map]

/-- The names of the standard registry, with their currencies. -/
def standardNames : List (String × Currency) := imfNames.map fun e => (e.1, .ofCode e.2)

theorem standard_eq : standard = empty.insertAll standardNames
  := by
  rw [insertAll, standardNames, List.foldl_map]
  rfl

/-- A registry as a map on normal forms, after names were given to currencies one by one. -/
structure ActsAsMap (given : List (String × Currency)) (names : CurrencyNames) : Prop where
  /-- A name has the currency that was given last to a name of its normal form. -/
  lookup_eq_some_iff {name : String} {currency : Currency} : names.lookup name = some currency
    ↔ ∃ earlier same later, given = earlier ++ (same, currency) :: later
      ∧ normalForm same = normalForm name ∧ ∀ e ∈ later, normalForm e.1 ≠ normalForm name
  /-- The normal form has the words of the name in lower case, with one space between two words. -/
  form {words : List (List Char)} {name : String} : Text.IsSpaced words name.toList →
    normalForm name = Text.lower (String.ofList ([' '].intercalate words))
  /-- Names that differ in form only have the same currency. -/
  lookup_congr {s t : String} : Text.DifferInForm s t → names.lookup s = names.lookup t
  /-- There are as many names as normal forms were given. -/
  size : names.size = (given.map (normalForm ·.1)).dedup.length

theorem actsAsMap_of_empty (given : List (String × Currency)) :
  (empty.insertAll given).ActsAsMap given
  where
  lookup_eq_some_iff := by
    intro name currency
    have none : empty.lookup name = none := rfl
    rw [lookup_insertAll, none, Option.or_none, Option.map_eq_some_iff]
    constructor
    · rintro ⟨⟨same, currency⟩, found, rfl⟩
      obtain ⟨form, later, earlier, split, other⟩ := List.find?_eq_some_iff_append.1 found
      refine ⟨earlier.reverse, same, later.reverse, ?_, by simpa using form, by simpa using other⟩
      rw [← List.reverse_reverse given, split]
      simp
    · rintro ⟨earlier, same, later, rfl, form, other⟩
      refine ⟨(same, currency), List.find?_eq_some_iff_append.2 ⟨by simpa using form, ?_⟩, rfl⟩
      exact ⟨later.reverse, earlier.reverse, by simp, by simpa using other⟩
  form := normalForm_of_isSpaced
  lookup_congr := by
    intro s t differ
    rw [lookup, lookup, normalForm_congr differ]
  size := size_insertAll given

/-- Whatever names are given to currencies in a registry that had none, or only the standard ones,
it is a map on their normal forms. -/
theorem actsAsMap_insertAll (given : List (String × Currency)) :
  (empty.insertAll given).ActsAsMap given
    ∧ (standard.insertAll given).ActsAsMap (standardNames ++ given)
  := by
  have all : standard.insertAll given = empty.insertAll (standardNames ++ given) := by
    rw [insertAll, insertAll, List.foldl_append, standard_eq]
    rfl
  rw [all]
  exact ⟨actsAsMap_of_empty given, actsAsMap_of_empty _⟩

/-- A name in another case and spacing, and one with a break too many. -/
example :
  let names := empty.insert "U.K. pound sterling" ⟨"GBP"⟩
  names.lookup " u.k.  pound STERLING\t" = some ⟨"GBP"⟩
    ∧ names.lookup "U. K. pound sterling" = none
  := by decide +kernel

end CrossRate.CurrencyNames
