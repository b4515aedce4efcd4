import DialectConversion.Name.Identifier
import DialectConversion.Proofs.Name.Pieces

/-! Dotted names as they are written: bare parts, and parts between double quotes or grave accents in which
that mark is doubled, with dots between them and white space around the dots. Such a name is read back part
by part. -/
namespace DialectConversion.Name
set_option autoImplicit false
open Text

/-! ## Written names -/

/-- The marks that are doubled inside the quotes they make. -/
inductive QuoteMark where
  | double
  | grave
  deriving DecidableEq

def QuoteMark.char : QuoteMark → Char
  | double => '"'
  | grave => graveAccent

/-- A part of a dotted name in one of its written forms. -/
inductive WrittenPart where
  /-- A text that stands for itself. -/
  | bare (text : String) (nonempty : text ≠ "") (trimmed : trim text = text)
      (plain : ∀ c ∈ text.toList, c ≠ '.' ∧ c ≠ '"' ∧ c ≠ graveAccent ∧ c ≠ '[')
  /-- Any text between two quotes. -/
  | quoted (mark : QuoteMark) (text : String)

namespace WrittenPart

def chars : WrittenPart → List Char
  | bare text .. => text.toList
  | quoted mark text => mark.char :: (doubled mark.char text.toList ++ [mark.char])

def identifier : WrittenPart → Identifier
  | bare text .. => ⟨text, false⟩
  | quoted _ text => ⟨text, true⟩

def canonical : WrittenPart → String
  | bare text .. => upper text
  | quoted _ text => text

end WrittenPart

/-- A dot between two parts, with the white space on both of its sides. -/
structure Dot where
  before : List Char := []
  after : List Char := []
  blank_before : ∀ c ∈ before, isWhiteSpace c = true := by simp
  blank_after : ∀ c ∈ after, isWhiteSpace c = true := by simp

/-- The characters of a name of one or more parts. -/
def writtenChars : WrittenPart → List (Dot × WrittenPart) → List Char
  | first, [] => first.chars
  | first, (dot, next) :: rest =>
    first.chars ++ (dot.before ++ '.' :: (dot.after ++ writtenChars next rest))

/-! ## Single parts -/

namespace QuoteMark

theorem closing?_char (mark : QuoteMark) : closing? mark.char = some mark.char := by
  cases mark <;> decide

theorem char_ne_dot (mark : QuoteMark) : mark.char ≠ '.' := by
  cases mark <;> decide

theorem char_ne_bracket (mark : QuoteMark) : mark.char ≠ '[' := by
  cases mark <;> decide

theorem isWhiteSpace_char (mark : QuoteMark) : isWhiteSpace mark.char = false := by
  cases mark <;> decide

end QuoteMark

theorem closing?_eq_none {c : Char} (hdouble : c ≠ '"') (hgrave : c ≠ graveAccent) (hbracket : c ≠ '[') :
    closing? c = none := by
  rw [closing?, if_neg (not_or.2 ⟨hdouble, hgrave⟩), if_neg hbracket]

namespace WrittenPart

theorem uncut_chars (p : WrittenPart) : Uncut none p.chars none := by
  cases p with
  | bare text _ _ plain =>
    refine Uncut.of_forall fun c hc => ?_
    obtain ⟨hdot, hdouble, hgrave, hbracket⟩ := plain c hc
    exact ⟨hdot, closing?_eq_none hdouble hgrave hbracket⟩
  | quoted mark text => exact Uncut.quoted mark.closing?_char mark.char_ne_dot text.toList

theorem chars_ne_nil (p : WrittenPart) : p.chars ≠ [] := by
  cases p with
  | bare text nonempty _ _ =>
    intro h
    exact nonempty (String.toList_injective h)
  | quoted mark text => exact List.cons_ne_nil _ _

theorem trimmed_chars (p : WrittenPart) : trimmed p.chars = p.chars := by
  cases p with
  | bare text _ htrimmed _ =>
    have h := congrArg String.toList htrimmed
    rwa [trim, String.toList_ofList] at h
  | quoted mark text => simp [chars, trimmed, mark.isWhiteSpace_char]

theorem quotedBody?_chars (p : WrittenPart) :
    quotedBody? p.chars =
      match p with
      | bare .. => none
      | quoted mark text => some (mark.char, doubled mark.char text.toList) := by
  cases p with
  | bare text _ _ plain =>
    show quotedBody? text.toList = none
    cases htext : text.toList with
    | nil => rfl
    | cons first rest =>
      obtain ⟨-, hdouble, hgrave, hbracket⟩ := plain first (by rw [htext]; exact List.mem_cons_self)
      rw [quotedBody?]
      split
      · rw [closing?_eq_none hdouble hgrave hbracket, if_neg nofun]
      · rfl
  | quoted mark text =>
    simp [chars, quotedBody?, mark.closing?_char]

theorem ofSegment_chars (p : WrittenPart) : Identifier.ofSegment (String.ofList p.chars) = p.identifier := by
  have hbody := p.quotedBody?_chars
  unfold Identifier.ofSegment isQuoted unquote unquotedChars trim
  rw [String.toList_ofList, p.trimmed_chars]
  cases p with
  | bare text _ _ _ =>
    rw [hbody]
    show (⟨String.ofList text.toList, false⟩ : Identifier) = ⟨text, false⟩
    rw [String.ofList_toList]
  | quoted mark text =>
    rw [hbody]
    simp only [Option.isSome_some, if_true, if_neg mark.char_ne_bracket]
    rw [undoubled_doubled, String.ofList_toList]
    rfl

end WrittenPart

/-! ## Names -/

theorem segmentsOf_writtenChars {lead : List Char} (hlead : ∀ c ∈ lead, isWhiteSpace c = true)
    (first : WrittenPart) (rest : List (Dot × WrittenPart)) :
    segmentsOf (lead ++ writtenChars first rest) = (first :: rest.map Prod.snd).map WrittenPart.chars := by
  induction rest generalizing lead first with
  | nil =>
    have h := segmentsOf_uncut hlead (List.forall_mem_nil _) first.uncut_chars first.trimmed_chars
      first.chars_ne_nil
    rw [List.append_nil] at h
    rw [writtenChars, h]
    rfl
  | cons next rest ih =>
    obtain ⟨dot, second⟩ := next
    have hfirst : segmentsOf (lead ++ (first.chars ++ dot.before)) = [first.chars] :=
      segmentsOf_uncut hlead dot.blank_before first.uncut_chars first.trimmed_chars first.chars_ne_nil
    have hclosed : openAfter none (lead ++ (first.chars ++ dot.before)) = none :=
      ((Uncut.of_isWhiteSpace hlead).append
        (first.uncut_chars.append (Uncut.of_isWhiteSpace dot.blank_before))).openAfter_eq
    calc segmentsOf (lead ++ writtenChars first ((dot, second) :: rest))
        = segmentsOf ((lead ++ (first.chars ++ dot.before)) ++
            '.' :: (dot.after ++ writtenChars second rest)) := by
          rw [writtenChars, List.append_assoc, List.append_assoc]
      _ = [first.chars] ++ (second :: rest.map Prod.snd).map WrittenPart.chars := by
          rw [segmentsOf_append_dot hclosed, hfirst, ih dot.blank_after second]

/-- A node that carries a written name in its text, and has no name parts, is named by the parts that are
written: in order, with their texts, quoted where they are written in quotes, and in upper case where they
are not. -/
theorem qualifiedName?_of_written {n : Node} (first : WrittenPart) (rest : List (Dot × WrittenPart))
    (hchildren : ∀ c ∈ n.children, c.kind ≠ SourceKind.namePart.label)
    (htext : n.attribute? AttributeName.text = some (String.ofList (writtenChars first rest))) :
    ∃ name, n.qualifiedName? = some name ∧
      name.parts = (first :: rest.map Prod.snd).map WrittenPart.identifier ∧
      name.parts.map Identifier.canonical = (first :: rest.map Prod.snd).map WrittenPart.canonical := by
  have hparts : n.nameParts = [] := List.filter_eq_nil_iff.2 fun c hc => by simp [hchildren c hc]
  have hsegments : splitSegments (String.ofList (writtenChars first rest)) =
      (first :: rest.map Prod.snd).map fun p => String.ofList p.chars := by
    have h := segmentsOf_writtenChars (List.forall_mem_nil _) first rest
    rw [List.nil_append] at h
    rw [splitSegments, String.toList_ofList, h, List.map_map]
    rfl
  have hidentifiers : (splitSegments (String.ofList (writtenChars first rest))).map Identifier.ofSegment =
      (first :: rest.map Prod.snd).map WrittenPart.identifier := by
    rw [hsegments, List.map_map]
    exact List.map_congr_left fun p _ => p.ofSegment_chars
  refine ⟨⟨(first :: rest.map Prod.snd).map WrittenPart.identifier, List.cons_ne_nil _ _⟩, ?_, rfl, ?_⟩
  · simp only [Node.qualifiedName?, hparts, htext, Option.bind_some, hidentifiers]
    rfl
  · rw [List.map_map]
    refine List.map_congr_left fun p _ => ?_
    cases p <;> rfl

theorem qualifiedName?_of_written_marks :
    let n := Node.mk SourceKind.identifier.label
      (NameMap.ofList [(AttributeName.text, "\"\"\".\" .\tx].``")]) []
    let first := WrittenPart.quoted .double "\"."
    let bare := WrittenPart.bare "x]" (by decide) (by decide) (by simp [graveAccent])
    let dot : Dot := ⟨[' '], ['\t'], List.forall_mem_singleton.2 (by decide),
      List.forall_mem_singleton.2 (by decide)⟩
    let rest := [(dot, bare), ({}, WrittenPart.quoted .grave "")]
    n.children = [] ∧ n.attribute? AttributeName.text = some (String.ofList (writtenChars first rest)) ∧
      ∃ name, n.qualifiedName? = some name ∧
        name.parts = [⟨"\".", true⟩, ⟨"x]", false⟩, ⟨"", true⟩] ∧
        name.parts.map Identifier.canonical = ["\".", "X]", ""] := by
  intro n first bare dot rest
  have htext : n.attribute? AttributeName.text = some (String.ofList (writtenChars first rest)) := by
    decide +kernel
  obtain ⟨name, hname, hparts, hcanonical⟩ :=
    qualifiedName?_of_written first rest (List.forall_mem_nil _) htext
  have hupper : (first :: rest.map Prod.snd).map WrittenPart.canonical = ["\".", "X]", ""] := by
    decide +kernel
  exact ⟨rfl, htext, name, hname, hparts, hcanonical.trans hupper⟩

end DialectConversion.Name
