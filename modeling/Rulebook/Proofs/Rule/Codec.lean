import Rulebook.Proofs.Expression.Codec
import Rulebook.RuleSet.Codec

/-!
# Rules that are written and read

Of a rule only name and text are read, in whatever members they stand; its expression is made from
the text again. So the text of a rule is read as the rule (`Rule.written_recompiled`), also where
the expression that it holds would be refused or be read as another one.
-/

set_option autoImplicit false

namespace Rulebook

open Json

/-! ## Members that are not asked for -/

section Members

variable {members others : List (String × Json)} {ignored : String}

/-- The members of one name are found whatever stands under another one. -/
theorem member?_congr
    (h : members.filter (fun m => m.1 ≠ ignored) = others.filter (fun m => m.1 ≠ ignored))
    {name : String} (hname : name ≠ ignored) : member? members name = member? others name := by
  have hfilter : ∀ ms : List (String × Json), ms.filter (fun m => m.1 = name) =
      (ms.filter fun m => m.1 ≠ ignored).filter fun m => m.1 = name := by
    intro ms
    rw [List.filter_filter]
    apply List.filter_congr
    intro m _
    by_cases hm : m.1 = name
    · simp [hm, hname]
    · simp [hm]
  rw [member?, member?, hfilter members, hfilter others, h]

/-- A draft is read whatever stands under a name that it does not have. -/
theorem Draft.ofJson?_congr
    (h : members.filter (fun m => m.1 ≠ ignored) = others.filter (fun m => m.1 ≠ ignored))
    (hname : "name" ≠ ignored) (htext : "text" ≠ ignored) :
    Draft.ofJson? (.object members) = Draft.ofJson? (.object others) := by
  have hrecord : (Json.object members).record? ["name", "text"] =
      (Json.object others).record? ["name", "text"] := by
    simp only [record?, List.mapM_cons, List.mapM_nil, member?_congr h hname,
      member?_congr h htext]
  rw [Draft.ofJson?, hrecord, Draft.ofJson?]

end Members

namespace Draft

/-- A draft is read from its JSON object. -/
theorem ofJson?_toJson (d : Draft) : ofJson? d.toJson = some d := by
  have hfields : d.toJson.record? ["name", "text"] =
      some [some (.string d.name), some (.string d.text)] := by
    simp [toJson, record?, member?]
  rw [ofJson?, hfields]
  rfl

theorem writable_toJson {depth : Nat} (hdepth : depth < maxDepth) (d : Draft) :
    Writable depth d.toJson := by
  apply Writable.object hdepth
  simp only [List.forall_mem_cons]
  exact ⟨.string _ _, .string _ _, by simp⟩

end Draft

namespace Rule

theorem nested_toJson (rule : Rule) : Nested 0 rule.toJson := by
  apply Nested.object (by decide)
  simp only [List.forall_mem_cons]
  exact ⟨.string _ _, .string _ _, rule.expression.nested_toJson (by decide), by simp⟩

/-- The texts of a rule are JSON, with name and text as they were written and with something in the
place of the expression. -/
theorem read?_toJson (rule : Rule) :
    read? rule.toJson.compact = some (.object [("name", .string rule.name),
        ("text", .string rule.text), ("expression", reread rule.expression.toJson)]) ∧
      read? rule.toJson.pretty = some (.object [("name", .string rule.name),
        ("text", .string rule.text), ("expression", reread rule.expression.toJson)]) :=
  rule.nested_toJson.read?_eq

/-- Whatever stands in the place of the expression, the rule is made from name and text. -/
theorem ofJson?_members (name text : String) (expression : Json) :
    ofJson? (.object [("name", .string name), ("text", .string text),
      ("expression", expression)]) = some (make name text) := by
  have hsame : [("name", Json.string name), ("text", .string text),
        ("expression", expression)].filter (fun m => m.1 ≠ "expression") =
      [("name", Json.string name), ("text", .string text)].filter
        (fun m => m.1 ≠ "expression") := by
    simp
  have hdraft : Draft.ofJson? (.object [("name", .string name), ("text", .string text),
      ("expression", expression)]) = Draft.ofJson? (Draft.toJson ⟨name, text⟩) :=
    Draft.ofJson?_congr hsame (by decide) (by decide)
  rw [ofJson?, hdraft, Draft.ofJson?_toJson]
  rfl

/-- A rule is read from its compact and from its indented text, whatever the numbers and the sources
of its expression. Of any text that is accepted as a rule, the text of the rule decides the
expression; texts of objects that differ at most in what stands under the name of the expression are
read as the same rule, or are both refused. -/
theorem written_recompiled :
    (∀ name text : String,
      (read? (make name text).toJson.compact).bind ofJson? = some (make name text) ∧
        (read? (make name text).toJson.pretty).bind ofJson? = some (make name text)) ∧
    (∀ (s : String) (rule : Rule), (read? s).bind ofJson? = some rule →
      rule.expression = Expression.read rule.text.toList) ∧
    (∀ (s t : String) (members others : List (String × Json)),
      read? s = some (.object members) → read? t = some (.object others) →
      members.filter (fun m => m.1 ≠ "expression") =
        others.filter (fun m => m.1 ≠ "expression") →
      (read? s).bind ofJson? = (read? t).bind ofJson?) := by
  refine ⟨?_, ?_, ?_⟩
  · -- whatever numbers a rule has, its text is JSON
    intro name text
    obtain ⟨hcompact, hpretty⟩ := (make name text).read?_toJson
    rw [hcompact, hpretty, Option.bind_some, ofJson?_members]
    exact ⟨rfl, rfl⟩
  · -- no rule is read but by making it from a draft
    intro s rule h
    obtain ⟨j, -, hrule⟩ := Option.bind_eq_some_iff.1 h
    obtain ⟨d, -, rfl⟩ := Option.map_eq_some_iff.1 hrule
    rfl
  · intro s t members others hs ht hsame
    rw [hs, ht, Option.bind_some, Option.bind_some, ofJson?, ofJson?,
      Draft.ofJson?_congr hsame (by decide) (by decide)]

/-- A rule with an operand that is no number, and a source with quotes. -/
def pointed : Rule := make "no \"rule\"" "Sales > . or \"Sales\" ~ \\"

/-- Its name and text, with something else in front of them under the name of the expression. -/
def unlike : Json :=
  .object [("expression", .array []), ("name", .string pointed.name),
    ("text", .string pointed.text)]

theorem written_recompiled_pointed :
    (read? pointed.toJson.compact).bind ofJson? = some pointed ∧
      (read? unlike.compact).bind ofJson? = some pointed ∧
      pointed.expression = Expression.read pointed.text.toList := by
  obtain ⟨hwritten, hexpression, hignored⟩ := written_recompiled
  have hrule : (read? pointed.toJson.compact).bind ofJson? = some pointed := (hwritten _ _).1
  have hunlike : read? unlike.compact = some unlike := by
    refine read?_compact (.object (by decide) ?_)
    simp only [List.forall_mem_cons]
    exact ⟨.array (by decide) (by simp), .string _ _, .string _ _, by simp⟩
  refine ⟨hrule, ?_, hexpression _ pointed hrule⟩
  rw [← hignored _ _ _ _ pointed.read?_toJson.1 hunlike (by simp), hrule]

end Rule

end Rulebook
