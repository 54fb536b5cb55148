import Mathlib.Data.List.Find
import SignOut.Proofs.MediaCoverage

/-!
# The classes behind an answer

Three tests decide about the answer for a media type: a web page satisfies it, it is the full
wildcard, or it asks for structured data.  The first and the last of them look at essences, at
suffixes and at wildcards, and yet they overlap in a single essence, that of web pages written in
XML: only three pairs of names pass the first test at all.  The full wildcard passes neither.  So it
matters in one case only which test comes first.
-/

namespace SignOut

namespace MediaType

variable {m : MediaType}

/-- An essence with a single slash tells the names. -/
theorem names_of_essence {type subtype : String} (h : m.essence = type ++ "/" ++ subtype)
    (htype : '/' ∉ type.toList) (hsubtype : '/' ∉ subtype.toList) : m.names = (type, subtype) := by
  have hsides : m.type.toList ++ '/' :: m.subtype.toList =
      type.toList ++ '/' :: subtype.toList := by
    have hlists := congrArg String.toList h
    simp only [essence, String.toList_append, List.append_assoc] at hlists
    exact hlists
  have hsingle : (m.type.toList ++ '/' :: m.subtype.toList).count '/' = 1 := by
    rw [hsides, List.count_append, List.count_cons_self, List.count_eq_zero.mpr htype,
      List.count_eq_zero.mpr hsubtype]
  have hown : '/' ∉ m.type.toList ∧ '/' ∉ m.subtype.toList := by
    rw [List.count_append, List.count_cons_self] at hsingle
    exact ⟨List.count_eq_zero.mp (by omega), List.count_eq_zero.mp (by omega)⟩
  have hfields : [m.type.toList, m.subtype.toList] = [type.toList, subtype.toList] := by
    rw [← Text.fields_eq_pair_iff.mpr ⟨rfl, hown.1, hown.2⟩, hsides,
      Text.fields_eq_pair_iff.mpr ⟨rfl, htype, hsubtype⟩]
  obtain ⟨hleft, hright⟩ := List.cons.inj hfields
  exact Prod.ext (String.toList_inj.mp hleft) (String.toList_inj.mp (List.cons.inj hright).1)

/-- A wildcard type stands in the full wildcard only. -/
theorem names_of_isWildcardType (h : m.isWildcardType = true) : m.names = all.names :=
  Prod.ext (eq_of_beq h) (m.wildcard (eq_of_beq h))

theorem isWildcardType_iff_essence : m.isWildcardType = true ↔ m.essence = "*/*" := by
  constructor
  · intro h
    exact essence_eq_of_names (names_of_isWildcardType h)
  · intro h
    have hnames : m.names = all.names := names_of_essence h (by decide) (by decide)
    exact beq_iff_eq.mpr (Prod.mk.inj hnames).1

end MediaType

namespace Negotiation

open MediaType

variable {m : MediaType}

/-! ## The classes -/

theorem isHtmlCompatible_eq_of_names {a b : MediaType} (h : a.names = b.names) :
    isHtmlCompatible a = isHtmlCompatible b := by
  obtain ⟨htype, hsubtype⟩ := Prod.mk.inj h
  unfold isHtmlCompatible essence isWildcardSubtype
  rw [htype, hsubtype]

theorem isStructured_eq_of_names {a b : MediaType} (h : a.names = b.names) :
    isStructured a = isStructured b := by
  obtain ⟨htype, hsubtype⟩ := Prod.mk.inj h
  unfold isStructured suffix? essence isWildcardSubtype
  rw [htype, hsubtype]

/-- A web page satisfies three pairs of names only. -/
theorem isHtmlCompatible_iff_names :
    isHtmlCompatible m = true ↔
      m.names = textHtml.names ∨ m.names = applicationXhtml.names ∨ m.names = textAny.names := by
  constructor
  · intro h
    simp only [isHtmlCompatible, htmlEssences, List.mem_cons, List.not_mem_nil, or_false,
      Bool.or_eq_true, decide_eq_true_eq, Bool.and_eq_true] at h
    rcases h with (hhtml | hxhtml) | ⟨htext, hwild⟩
    · exact .inl (names_of_essence hhtml (by decide) (by decide))
    · exact .inr (.inl (names_of_essence hxhtml (by decide) (by decide)))
    · exact .inr (.inr (Prod.ext (eq_of_beq htext) (eq_of_beq hwild)))
  · rintro (h | h | h)
    · rw [isHtmlCompatible_eq_of_names h]
      decide
    · rw [isHtmlCompatible_eq_of_names h]
      decide
    · rw [isHtmlCompatible_eq_of_names h]
      decide

/-- Of what a web page satisfies, only the web page in XML asks for structured data. -/
theorem html_and_structured_iff :
    (isHtmlCompatible m = true ∧ isStructured m = true) ↔
      m.essence = "application/xhtml+xml" := by
  constructor
  · rintro ⟨hhtml, hstructured⟩
    rcases isHtmlCompatible_iff_names.mp hhtml with h | h | h
    · rw [isStructured_eq_of_names h] at hstructured
      cases hstructured
    · exact essence_eq_of_names h
    · rw [isStructured_eq_of_names h] at hstructured
      cases hstructured
  · intro h
    have hnames : m.names = applicationXhtml.names :=
      names_of_essence h (by decide) (by decide)
    rw [isHtmlCompatible_eq_of_names hnames, isStructured_eq_of_names hnames]
    decide

/-- The full wildcard is in neither of the other classes. -/
theorem classes_of_isWildcardType (h : m.isWildcardType = true) :
    isHtmlCompatible m = false ∧ isStructured m = false := by
  have hnames := names_of_isWildcardType h
  rw [isHtmlCompatible_eq_of_names hnames, isStructured_eq_of_names hnames]
  decide

/-! ## Rules in some order -/

/-- A test for a class of media types, and the answer for the class. -/
structure Rule where
  holds : MediaType → Bool
  answer : Outcome

/-- A web page satisfies the media type. -/
def htmlRule : Rule := ⟨isHtmlCompatible, .redirect⟩

/-- The media type is the full wildcard. -/
def wildcardRule : Rule := ⟨isWildcardType, .noContent⟩

/-- The media type asks for structured data. -/
def structuredRule : Rule := ⟨isStructured, .noContent⟩

/-- The rules of the negotiation in their order. -/
def rules : List Rule := [htmlRule, wildcardRule, structuredRule]

/-- The answer of the first rule that holds, and a redirect if none does. -/
def firstAnswer (order : List Rule) (m : MediaType) : Outcome :=
  match order.find? (·.holds m) with
  | some rule => rule.answer
  | none => .redirect

/-- The answer for a media type is that of the first rule that holds. -/
theorem outcomeFor_eq_firstAnswer (m : MediaType) : outcomeFor m = firstAnswer rules m := by
  unfold outcomeFor firstAnswer rules htmlRule wildcardRule structuredRule
  cases hhtml : isHtmlCompatible m with
  | true => simp [hhtml]
  | false =>
      cases hwild : m.isWildcardType with
      | true => simp [hhtml, hwild]
      | false =>
          cases hstructured : isStructured m with
          | true => simp [hhtml, hwild, hstructured]
          | false => simp [hhtml, hwild, hstructured]

/-- But for the web page in XML, one rule holds at most. -/
theorem subsingleton_holds (h : m.essence ≠ "application/xhtml+xml") :
    {rule ∈ rules | rule.holds m = true}.Subsingleton := by
  have hhtml : isHtmlCompatible m = true → isStructured m ≠ true :=
    fun hhtml hstructured => h (html_and_structured_iff.mp ⟨hhtml, hstructured⟩)
  have hwild : m.isWildcardType = true → isHtmlCompatible m ≠ true ∧ isStructured m ≠ true := by
    intro hwild
    obtain ⟨hnothtml, hnotstructured⟩ := classes_of_isWildcardType hwild
    exact ⟨Bool.eq_false_iff.mp hnothtml, Bool.eq_false_iff.mp hnotstructured⟩
  rintro a ⟨ha, hholds⟩ b ⟨hb, hholds'⟩
  simp only [rules, List.mem_cons, List.not_mem_nil, or_false] at ha hb
  -- two different rules of the three cannot both hold
  rcases ha with rfl | rfl | rfl
  · rcases hb with rfl | rfl | rfl
    · rfl
    · exact absurd hholds (hwild hholds').1
    · exact absurd hholds' (hhtml hholds)
  · rcases hb with rfl | rfl | rfl
    · exact absurd hholds' (hwild hholds).1
    · rfl
    · exact absurd hholds' (hwild hholds).2
  · rcases hb with rfl | rfl | rfl
    · exact absurd hholds (hhtml hholds')
    · exact absurd hholds (hwild hholds').2
    · rfl

/-- But for the web page in XML, the rules give one answer in every order. -/
theorem firstAnswer_of_perm (h : m.essence ≠ "application/xhtml+xml") {order : List Rule}
    (horder : order.Perm rules) : firstAnswer order m = outcomeFor m := by
  have hfound : rules.find? (·.holds m) = order.find? (·.holds m) :=
    List.find?_eq_find?_of_perm horder.symm (subsingleton_holds h)
  rw [outcomeFor_eq_firstAnswer, firstAnswer, firstAnswer, hfound]

/-- The classes behind an answer are disjoint but for one essence.  What a web page satisfies and
what asks for structured data have the web page in XML in common and nothing else, and the full
wildcard, which is all that has a wildcard type, is in neither class.  The answer is that of the
first rule that holds; so it is the same in whatever order the three rules are tried, except for the
web page in XML, for which the order matters.  Of a media type, the answer depends on the type and
the subtype alone: its quality, its position and its parameters have no say. -/
theorem classes_disjoint (m : MediaType) :
    ((isHtmlCompatible m = true ∧ isStructured m = true) ↔
      m.essence = "application/xhtml+xml") ∧
    (m.isWildcardType = true ↔ m.essence = "*/*") ∧
    (m.essence = "*/*" → isHtmlCompatible m = false ∧ isStructured m = false) ∧
    outcomeFor m = firstAnswer rules m ∧
    (m.essence ≠ "application/xhtml+xml" →
      ∀ order : List Rule, order.Perm rules → firstAnswer order m = outcomeFor m) ∧
    (m.essence = "application/xhtml+xml" → outcomeFor m = .redirect ∧
      firstAnswer [structuredRule, wildcardRule, htmlRule] m = .noContent) ∧
    ∀ m' : MediaType, m'.type = m.type → m'.subtype = m.subtype → outcomeFor m' = outcomeFor m := by
  refine ⟨html_and_structured_iff, isWildcardType_iff_essence, ?_, outcomeFor_eq_firstAnswer m,
    fun h order => firstAnswer_of_perm h, ?_, fun m' => outcomeFor_eq_of_names⟩
  · exact fun h => classes_of_isWildcardType (isWildcardType_iff_essence.mpr h)
  · intro h
    obtain ⟨hhtml, hstructured⟩ := html_and_structured_iff.mpr h
    constructor
    · exact if_pos hhtml
    · simp [firstAnswer, structuredRule, hstructured]

/-- A type with several plus signs, of which the last one starts the suffix. -/
def layered : MediaType :=
  plain "model" "a+json+xml" (by decide) (by decide) fun h => absurd h (by decide)

/-- The same names with the lowest quality, another position and a parameter. -/
def layeredUnwanted : MediaType :=
  { layered with quality := .zero, order := 7, parameters := [("level", "1")] }

theorem classes_disjoint_sample :
    (isHtmlCompatible applicationXhtml = true ∧ isStructured applicationXhtml = true) ∧
    (isHtmlCompatible all = false ∧ isStructured all = false) ∧
    firstAnswer [structuredRule, htmlRule, wildcardRule] layered = outcomeFor layered ∧
    firstAnswer [structuredRule, wildcardRule, htmlRule] applicationXhtml = .noContent ∧
    outcomeFor layeredUnwanted = .noContent := by
  obtain ⟨-, -, -, -, horders, -, hnames⟩ := classes_disjoint layered
  refine ⟨(classes_disjoint applicationXhtml).1.mpr (by decide),
    (classes_disjoint all).2.2.1 (by decide), horders (by decide) _ ?_,
    ((classes_disjoint applicationXhtml).2.2.2.2.2.1 (by decide)).2, ?_⟩
  · exact (List.Perm.swap htmlRule structuredRule [wildcardRule]).trans
      ((List.Perm.swap wildcardRule structuredRule []).cons htmlRule)
  · rw [hnames layeredUnwanted rfl rfl]
    decide

end Negotiation

end SignOut
