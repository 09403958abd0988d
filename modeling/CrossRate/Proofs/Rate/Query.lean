import CrossRate.Proofs.Calendar.Written
import CrossRate.Proofs.Json.Writing
import CrossRate.Rate.Query

/-!
# Reading back queries

The codes of a query that has been read are three capitals each, and with such codes a query is read
back from what is written for it, whatever its day and its providers
(`RateQuery.roundTrips_of_ofJson?`).
-/

namespace CrossRate

/-! ### Codes -/

namespace Currency

/-- The code of a currency is three ASCII capitals. -/
def IsCoded (c : Currency) : Prop := c.code.toList.length = 3 ∧ ∀ a ∈ c.code.toList, a.isUpper

theorem toList_upper {cs : List Char} (letters : ∀ c ∈ cs, c.isAlpha) :
  (Text.upper (String.ofList cs)).toList = cs.map Char.toUpper
  := by
  rw [Text.upper, String.toList_ofList, String.toList_ofList]
  induction cs with
  | nil => rfl
  | cons c cs ih =>
    obtain ⟨first, others⟩ := List.forall_mem_cons.1 letters
    rw [List.flatMap_cons, (Text.upperChar_of_isAlpha first).1, ih others]
    rfl

/-- A code that is read is three capitals. -/
theorem isCoded_of_parse {text : String} {c : Currency} (h : parse text = .ok c) : c.IsCoded
  := by
  rw [parse] at h
  split at h
  · rename_i code
    obtain rfl := Except.ok.inj h
    rw [isCode, Bool.and_eq_true, beq_iff_eq, List.all_eq_true] at code
    obtain ⟨three, letters⟩ := code
    have upper := toList_upper letters
    rw [String.ofList_toList] at upper
    rw [IsCoded, ofCode, upper, List.length_map]
    use three
    intro a mem
    obtain ⟨b, letter, rfl⟩ := List.mem_map.1 mem
    apply (Text.upperChar_of_isAlpha (letters b letter)).2
  · cases h

/-- Three capitals are read as they are. -/
theorem IsCoded.parse_code {c : Currency} (coded : c.IsCoded) : parse c.code = .ok c
  := by
  obtain ⟨three, capitals⟩ := coded
  have letters : ∀ a ∈ c.code.toList, a.isAlpha := by
    intro a mem
    apply Text.isAlpha_of_isUpper (capitals a mem)
  have black : ∀ a ∈ c.code.toList, Text.isBlank a = false := by
    intro a mem
    apply Text.isBlank_of_isAlpha (letters a mem)
  have code : isCode c.code.toList = true := by
    rw [isCode, Bool.and_eq_true, beq_iff_eq, List.all_eq_true]
    exact ⟨three, letters⟩
  have upper : Text.upper c.code = c.code := by
    rw [Text.upper, Text.flatMap_upperChar capitals, String.ofList_toList]
  rw [parse, Text.trim, Text.trimChars_eq_self black, String.ofList_toList]
  simp only [code, if_true, ofCode, upper]

end Currency

namespace RateQuery

/-! ### Reading back -/

theorem isTextual_toJson (q : RateQuery) : q.toJson.IsTextual
  := by
  have day : (Json.ofOption (fun day => .string day.print) q.asOf : Json).IsTextual := by
    cases q.asOf with
    | none => apply Json.IsTextual.null
    | some day => apply Json.IsTextual.string
  have providers : (Json.ofList .string q.providers).IsTextual := by
    apply Json.IsTextual.array
    intro item mem
    obtain ⟨name, -, rfl⟩ := List.mem_map.1 mem
    apply Json.IsTextual.string
  apply Json.IsTextual.object
  simp only [List.forall_mem_cons]
  exact ⟨.string _, .string _, day, providers, by simp⟩

theorem asStrings?_ofList (texts : List String) :
  (Json.ofList .string texts).asStrings? = some texts
  := by
  rw [Json.ofList, Json.asStrings?, Json.asArray?, Option.bind_some]
  induction texts with
  | nil => rfl
  | cons text texts ih =>
    rw [List.map_cons, List.mapM_cons, ih]
    rfl

theorem day?_ofOption (day : Option Date) :
  day? (.ofOption (fun day => .string day.print) day) = some day
  := by
  cases day with
  | none => rfl
  | some day =>
    rw [Json.ofOption, Option.map_some, Option.getD_some, day?, Date.parse?_print, Option.map_some]

theorem currency?_code {c : Currency} (coded : c.IsCoded) : currency? (.string c.code) = some c
  := by
  rw [currency?, Json.asString?, Option.bind_some, coded.parse_code]
  rfl

/-- A query between currencies with three capitals is read back. -/
theorem ofJson?_toJson {q : RateQuery} (base : q.base.IsCoded) (term : q.term.IsCoded) :
  ofJson? q.toJson = some q
  := by
  have fields : q.toJson.record? ["base", "term", "as_of", "providers"]
      = some [some (.string q.base.code), some (.string q.term.code),
          some (.ofOption (fun day => .string day.print) q.asOf),
          some (.ofList .string q.providers)] := rfl
  rw [ofJson?, fields]
  simp only [Option.bind_eq_bind, Option.bind_some, currency?_code base, currency?_code term,
    Json.orDefault, day?_ofOption, asStrings?_ofList]
  rfl

/-- The currencies of a query that is read have three capitals. -/
theorem isCoded_of_ofJson? {json : Json} {q : RateQuery} (read : ofJson? json = some q) :
  q.base.IsCoded ∧ q.term.IsCoded
  := by
  have coded {json : Json} {c : Currency} (h : currency? json = some c) : c.IsCoded := by
    obtain ⟨text, -, h⟩ := Option.bind_eq_some_iff.1 h
    cases parsed : Currency.parse text with
    | ok c' =>
      rw [parsed] at h
      obtain rfl : c' = c := Option.some.inj h
      apply Currency.isCoded_of_parse parsed
    | error e =>
      rw [parsed] at h
      cases h
  rw [ofJson?, Option.bind_eq_bind, Option.bind_eq_some_iff] at read
  obtain ⟨values, -, read⟩ := read
  split at read
  · simp only [Option.bind_eq_bind, Option.bind_eq_some_iff] at read
    obtain ⟨_, -, base, readBase, _, -, term, readTerm, _, -, _, -, made⟩ := read
    obtain rfl := Option.some.inj made
    exact ⟨coded readBase, coded readTerm⟩
  · cases read

/-- A query and its text: the codes are three ASCII capitals each, and the query is read from its
JSON and from the text of that, for its day as for any other. -/
structure RoundTrips (q : RateQuery) : Prop where
  base : q.base.IsCoded
  term : q.term.IsCoded
  value : ofJson? q.toJson = some q
  text : (Json.parse? q.toJson.compact).bind ofJson? = some q
  on (day : Date) :
    ofJson? (q.on day).toJson = some (q.on day)
      ∧ (Json.parse? (q.on day).toJson.compact).bind ofJson? = some (q.on day)

/-- Every query that is read from JSON is read back from what is written for it. -/
theorem roundTrips_of_ofJson? {json : Json} {q : RateQuery} (read : ofJson? json = some q) :
  q.RoundTrips
  := by
  have text {q : RateQuery} (value : ofJson? q.toJson = some q) :
      (Json.parse? q.toJson.compact).bind ofJson? = some q := by
    rw [Json.parse?_compact q.isTextual_toJson, Option.bind_some, value]
  obtain ⟨base, term⟩ := isCoded_of_ofJson? read
  have value := ofJson?_toJson base term
  refine { base, term, value, text := text value, on := ?_ }
  intro day
  have value : ofJson? (q.on day).toJson = some (q.on day) := ofJson?_toJson base term
  use value
  apply text value

/-- A query for the first day of the calendar, in one of its many spellings. -/
theorem roundTrips_of_first_day :
  let json : Json := .object [("providers", .array [.string "ECB", .string "im\"f"]),
    ("as_of", .string " -262143 - 1 -  1"), ("base", .string " eUr"), ("term", .string "usd\t")]
  let q : RateQuery := ⟨⟨"EUR"⟩, ⟨"USD"⟩, some ⟨firstDay, by decide, by decide⟩, ["ECB", "im\"f"]⟩
  ofJson? json = some q ∧ q.RoundTrips
  := by
  intro json q
  have read : ofJson? json = some q := by decide +kernel
  exact ⟨read, roundTrips_of_ofJson? read⟩

end RateQuery

end CrossRate
