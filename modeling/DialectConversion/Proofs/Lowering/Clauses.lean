import DialectConversion.Proofs.Lowering.Grammar

/-! Which statements lowering keeps whole. A statement kept as text is kept whole; a lowered select is,
when its list, its tables and its condition make up its text. They do unless the tables stand in front
of the list, the list is empty, or the select has a form of rows or leaves columns out, none of which
is looked at before a select is lowered. -/
namespace DialectConversion
set_option autoImplicit false
open Sql
open Text (joined)

namespace Sql
open Text

namespace Select

/-! ## The text of plain selects -/

/-- What a select begins with. -/
def head (s : Select) : String :=
  match s.order with
  | .listFirst => "SELECT"
  | .tablesFirst => "FROM " ++ joined ", " s.tables ++ " SELECT"
  | .tablesOnly => "FROM " ++ joined ", " s.tables

/-- The texts of the items of the list. -/
def listText (s : Select) : String := joined ", " (s.projection.map SelectItem.text)

/-- The tables and the condition, each with a blank in front. -/
def tailText (s : Select) : String :=
  (if s.tables.isEmpty then "" else " FROM " ++ joined ", " s.tables) ++
    (match s.selection? with
      | some condition => " WHERE " ++ condition.text
      | none => "")

/-- The text that the list, the tables and the condition of a select make up. -/
def clauseText (s : Select) : String := "SELECT " ++ s.listText ++ s.tailText

/-- The clauses that a plain select may have. -/
def plainClauses (s : Select) : List String :=
  (s.rowForm?.map RowForm.text).toList ++ (if s.projection.isEmpty then [] else [s.listText]) ++
    optionClause "EXCLUDE" s.exclude? ++
    (if s.order = .listFirst then listClause "FROM" s.tables else []) ++
    optionClause "WHERE" (s.selection?.map Expr.text)

theorem text_of_isPlain {s : Select} (h : s.isPlain = true) :
    s.text = s.head ++ trailed " " s.plainClauses := by
  obtain ⟨order, rowForm?, distinct?, top?, projection, exclude?, into?, tables, lateralViews, prewhere?,
    selection?, groupBy?, clusterBy, distributeBy, sortBy, having?, windows, qualify?, windowsFirst,
    connectBy?⟩ := s
  simp only [isPlain, Bool.and_eq_true, Option.isNone_iff_eq_none, List.isEmpty_iff] at h
  obtain ⟨⟨⟨⟨⟨⟨⟨⟨⟨⟨⟨⟨rfl, rfl⟩, rfl⟩, rfl⟩, rfl⟩, rfl⟩, rfl⟩, rfl⟩, rfl⟩, rfl⟩, rfl⟩, rfl⟩, rfl⟩ := h
  rw [← joined_cons]
  cases order <;> cases windowsFirst <;>
    simp [text, plainClauses, head, listText, optionClause, listClause]

theorem trailed_tail (s : Select) :
    trailed " " (listClause "FROM" s.tables) ++
      trailed " " (optionClause "WHERE" (s.selection?.map Expr.text)) = s.tailText := by
  have htables : trailed " " (listClause "FROM" s.tables) =
      if s.tables.isEmpty then "" else " FROM " ++ joined ", " s.tables := by
    unfold listClause
    split
    · rfl
    · rw [trailed_singleton, ← String.append_assoc]
      rfl
  have hcondition : trailed " " (optionClause "WHERE" (s.selection?.map Expr.text)) =
      match s.selection? with
      | some condition => " WHERE " ++ condition.text
      | none => "" := by
    cases s.selection? with
    | none => rfl
    | some condition =>
      rw [Option.map_some, optionClause, trailed_singleton, ← String.append_assoc]
      rfl
  rw [htables, hcondition, tailText]

theorem text_of_listFirst {s : Select} (h : s.isPlain = true) (horder : s.order = .listFirst) :
    s.text = "SELECT" ++ (trailed " " (s.rowForm?.map RowForm.text).toList ++
      ((if s.projection.isEmpty then "" else " " ++ s.listText) ++
        (trailed " " (optionClause "EXCLUDE" s.exclude?) ++ s.tailText))) := by
  have hlist : trailed " " (if s.projection.isEmpty then [] else [s.listText]) =
      if s.projection.isEmpty then "" else " " ++ s.listText := by
    split
    · rfl
    · exact trailed_singleton _ _
  rw [text_of_isPlain h, head, horder, plainClauses, horder, if_pos rfl]
  simp only [trailed_append, String.append_assoc, trailed_tail, hlist]

/-! ## Selects that are the text of their clauses -/

/-- Whether a select has a list in front of its tables and says nothing of its rows. -/
def isStandard (s : Select) : Bool :=
  s.order = .listFirst && !s.projection.isEmpty && s.rowForm?.isNone && s.exclude?.isNone

theorem isStandard_iff (s : Select) :
    s.isStandard = true ↔
      s.order = .listFirst ∧ s.projection ≠ [] ∧ s.rowForm? = none ∧ s.exclude? = none := by
  simp [isStandard, and_assoc]

theorem length_rowForm (s : Select) :
    (trailed " " (s.rowForm?.map RowForm.text).toList).length = 0 ∧ s.rowForm? = none ∨
      2 ≤ (trailed " " (s.rowForm?.map RowForm.text).toList).length := by
  cases s.rowForm? with
  | none => exact .inl ⟨rfl, rfl⟩
  | some form =>
    right
    cases form <;> decide

theorem length_exclude (s : Select) :
    (trailed " " (optionClause "EXCLUDE" s.exclude?)).length = 0 ∧ s.exclude? = none ∨
      2 ≤ (trailed " " (optionClause "EXCLUDE" s.exclude?)).length := by
  cases s.exclude? with
  | none => exact .inl ⟨rfl, rfl⟩
  | some columns =>
    right
    have hkeyword : "EXCLUDE".length = 7 := by decide
    rw [optionClause, trailed_singleton]
    simp only [String.length_append, hkeyword]
    omega

theorem from_ne_select (tables list : String) : "FROM " ++ tables ≠ "SELECT " ++ list := by
  intro h
  have hfirst := congrArg (fun t : String => t.toList.head?) h
  simp [String.toList_append] at hfirst

theorem order_of_text_eq {s : Select} (h : s.isPlain = true) (htext : s.text = s.clauseText) :
    s.order = .listFirst := by
  rw [text_of_isPlain h, head, clauseText, String.append_assoc] at htext
  cases horder : s.order with
  | listFirst => rfl
  | tablesFirst =>
    rw [horder] at htext
    simp only [String.append_assoc] at htext
    exact absurd htext (from_ne_select _ _)
  | tablesOnly =>
    rw [horder] at htext
    simp only [String.append_assoc] at htext
    exact absurd htext (from_ne_select _ _)

/-- The text of a plain select that begins with its list is longer than that of its clauses by what it
says of its rows. -/
theorem length_of_text_eq {s : Select} (h : s.isPlain = true) (htext : s.text = s.clauseText) :
    (trailed " " (s.rowForm?.map RowForm.text).toList).length +
        (if s.projection.isEmpty then "" else " " ++ s.listText).length +
        (trailed " " (optionClause "EXCLUDE" s.exclude?)).length = 1 + s.listText.length := by
  have hselect : "SELECT".length = 6 := by decide
  have hselect' : "SELECT ".length = 7 := by decide
  rw [text_of_listFirst h (order_of_text_eq h htext), clauseText] at htext
  have hlength := congrArg String.length htext
  simp only [String.length_append, hselect, hselect'] at hlength
  omega

/-- A plain select is the text of its clauses when it is standard, and only then. -/
theorem text_eq_clauseText_iff {s : Select} (h : s.isPlain = true) :
    s.text = s.clauseText ↔ s.isStandard = true := by
  rw [isStandard_iff]
  constructor
  · intro htext
    have horder := order_of_text_eq h htext
    have hlength := length_of_text_eq h htext
    have hblank : " ".length = 1 := by decide
    have hlist : s.projection.isEmpty = true ∧ s.listText.length = 0 ∨
        s.projection.isEmpty = false := by
      cases hempty : s.projection with
      | nil =>
        rw [listText, hempty]
        exact .inl ⟨rfl, rfl⟩
      | cons item rest => exact .inr rfl
    rcases hlist with ⟨hempty, hlist⟩ | hempty
    · rw [hempty, if_pos rfl, String.length_empty, hlist] at hlength
      rcases s.length_rowForm with ⟨hrow, -⟩ | hrow <;>
        rcases s.length_exclude with ⟨hexclude, -⟩ | hexclude <;> omega
    · rw [hempty, if_neg Bool.false_ne_true, String.length_append, hblank] at hlength
      rcases s.length_rowForm with ⟨-, hrow⟩ | hrow
      · rcases s.length_exclude with ⟨-, hexclude⟩ | hexclude
        · refine ⟨horder, ?_, hrow, hexclude⟩
          intro hnil
          rw [hnil] at hempty
          exact Bool.noConfusion hempty
        · omega
      · omega
  · rintro ⟨horder, hlist, hrow, hexclude⟩
    have hempty : s.projection.isEmpty = false := by
      simpa using hlist
    rw [text_of_listFirst h horder, clauseText, hrow, hexclude, hempty, if_neg Bool.false_ne_true,
      Option.map_none, Option.toList_none, optionClause, trailed_nil, String.empty_append,
      String.empty_append, ← String.append_assoc, ← String.append_assoc]
    rfl

end Select

/-! ## Statements that are kept whole -/

/-- A statement is kept whole when it is kept as text, or when it is the text of the clauses of the
select that it is lowered as. -/
def Statement.IsKeptWhole (s : Statement) : Prop :=
  s.node = SourceKind.rawStatement.textNode s.text ∨
    ∃ q select, s = .query q ∧ q.body = .select select ∧ s.node = select.node ∧
      s.text = select.clauseText

theorem Query.of_plainSelect? {q : Query} {select : Select} (h : q.plainSelect? = some select) :
    q.body = .select select ∧ q.text = select.text ∧ select.isPlain = true := by
  unfold plainSelect? at h
  split at h
  · rename_i htext
    cases hbody : q.body with
    | other spelling => simp only [hbody, reduceCtorEq] at h
    | select s =>
      simp only [hbody] at h
      split at h
      · rename_i hplain
        obtain rfl := Option.some.inj h
        rw [hbody] at htext
        exact ⟨rfl, htext, hplain⟩
      · exact absurd h nofun
  · exact absurd h nofun

/-- The statements that are kept whole are those that are not lowered as a select which puts its tables
first, has an empty list, or says something of its rows. -/
theorem Statement.isKeptWhole_iff (s : Statement) :
    s.IsKeptWhole ↔
      ∀ q select, s = .query q → q.plainSelect? = some select → select.isStandard = true := by
  constructor
  · rintro hkept q select rfl hselect
    obtain ⟨hbody, htext, hplain⟩ := Query.of_plainSelect? hselect
    rcases hkept with hraw | ⟨q', select', hq, hbody', -, hclauses⟩
    · rw [Statement.node_of_plainSelect? hselect] at hraw
      have hkind : SourceKind.selectStatement.label = SourceKind.rawStatement.label :=
        congrArg Node.kind hraw
      exact absurd (SourceKind.label_injective hkind) nofun
    · obtain rfl := Statement.query.inj hq
      obtain rfl := Body.select.inj (hbody.symm.trans hbody')
      exact (Select.text_eq_clauseText_iff hplain).1 (htext.symm.trans hclauses)
  · intro hstandard
    cases s with
    | other spelling => exact .inl rfl
    | query q =>
      cases hselect : q.plainSelect? with
      | none => exact .inl (Statement.node_of_not_plainSelect? hselect)
      | some select =>
        obtain ⟨hbody, htext, hplain⟩ := Query.of_plainSelect? hselect
        have hclauses := (Select.text_eq_clauseText_iff hplain).2 (hstandard q select rfl hselect)
        exact .inr ⟨q, select, rfl, hbody, Statement.node_of_plainSelect? hselect, htext.trans hclauses⟩

/-- A select that is nothing but its tables is lowered as if it had a list. -/
theorem Statement.not_forall_isKeptWhole : ¬ ∀ s : Statement, s.IsKeptWhole := by
  intro h
  have htables := h (.query { body := .select { order := .tablesOnly, tables := ["t"] } })
  rcases htables with hraw | ⟨q, select, hq, hbody, -, htext⟩
  · exact absurd hraw (by decide +kernel)
  · obtain rfl := Statement.query.inj hq
    obtain rfl := Body.select.inj hbody
    exact absurd htext (by decide +kernel)

end Sql
end DialectConversion
