import DialectConversion.Json.Encode
import DialectConversion.Proofs.Json.Reading

/-! Records in the form of objects. Their members are read one after another into the fields of a state, and
what the record comes to is made of the state behind the last one. A member that nests too deeply for the
room inside the record stops it. -/
namespace DialectConversion.Json
set_option autoImplicit false

variable {γ : Type}

/-- The content of a member that is left out where its list is empty. -/
def contentUnlessEmpty? (content : List γ) : Option (List γ) :=
  if content.isEmpty then none else some content

theorem contentUnlessEmpty?_eq_some {content : List γ} (h : content ≠ []) :
    contentUnlessEmpty? content = some content :=
  if_neg fun hempty => h (List.isEmpty_iff.1 hempty)

theorem getD_contentUnlessEmpty? (content : List γ) : (contentUnlessEmpty? content).getD [] = content := by
  cases content <;> rfl

namespace Reader

variable {α σ γ : Type} {member : σ → String → Reader σ} {room : Nat} {s s' t : σ}
  {members more : List (String × Value)}

/-- The members of a record lead from one state to another where none of them nests more deeply than there
is room; otherwise one of them cannot be read. -/
def TakesMembers (member : σ → String → Reader σ) (room : Nat) (s : σ) (members : List (String × Value))
    (t : σ) : Prop :=
  TakesAll (TakesMember member) s (members.map fun m => memberForms m.1 m.2.written)
    (if ∀ m ∈ members, m.2.nesting ≤ room then some t else none)

namespace TakesMembers

theorem nil (s : σ) : TakesMembers member room s [] s := TakesAll.nil s

theorem append (h : TakesMembers member room s members s') (hmore : TakesMembers member room s' more t) :
    TakesMembers member room s (members ++ more) t := by
  have hnext : ∀ u, (if ∀ m ∈ members, m.2.nesting ≤ room then some s' else none) = some u →
      TakesAll (TakesMember member) u (more.map fun m => memberForms m.1 m.2.written)
        (if ∀ m ∈ more, m.2.nesting ≤ room then some t else none) := by
    intro u hu
    obtain ⟨_, hu⟩ := Option.ite_none_right_eq_some.1 hu
    exact Option.some.inj hu ▸ hmore
  have hall := TakesAll.append h hnext
  rw [TakesMembers, List.map_append]
  by_cases hmembers : ∀ m ∈ members, m.2.nesting ≤ room
  · have hcond : (∀ m ∈ members ++ more, m.2.nesting ≤ room) ↔ ∀ m ∈ more, m.2.nesting ≤ room := by
      rw [List.forall_mem_append]
      exact and_iff_right hmembers
    rw [if_pos hmembers, Option.bind_some] at hall
    simpa only [hcond] using hall
  · rw [if_neg hmembers, Option.bind_none] at hall
    rwa [if_neg fun h => hmembers (List.forall_mem_append.1 h).1]

theorem singleton {name : String} {v : Value}
    (h : (member s name).Reads (behindColon v.written) (if v.nesting ≤ room then some t else none)) :
    TakesMembers member room s [(name, v)] t := by
  have htake : TakesMember member s (memberForms name v.written)
      (if v.nesting ≤ room then some t else none) := ⟨name, v.written, rfl, h⟩
  by_cases hv : v.nesting ≤ room
  · rw [if_pos hv] at htake
    have hall := TakesAll.cons htake (.nil t)
    simpa [TakesMembers, hv] using hall
  · rw [if_neg hv] at htake
    have hall : TakesAll (TakesMember member) s [memberForms name v.written] none := .stop htake
    simpa [TakesMembers, hv] using hall

theorem once {name : String} {value : Reader α} {v : Value} {a : α} (update : Option α → σ)
    (hmember : member s name = do return update (← Reader.once name none value))
    (h : value.ReadsWithin room v a) : TakesMembers member room s [(name, v)] (update (some a)) :=
  .singleton (hmember ▸ h.once name update)

theorem unlessEmpty {name : String} {content : List γ} {v : Value} (hempty : content = [] → t = s)
    (h : content ≠ [] → TakesMembers member room s [(name, v)] t) :
    TakesMembers member room s (memberUnlessEmpty name content v) t := by
  unfold memberUnlessEmpty
  split
  next hnil => exact hempty (List.isEmpty_iff.1 hnil) ▸ nil _
  next hne => exact h fun hnil => hne (List.isEmpty_iff.2 hnil)

/-- A record whose members lead to a state with a value comes to this value. -/
theorem readsWithin_record (h : TakesMembers member (room - 1) s members t) {finish : σ → Reader α} {a : α}
    (hfinish : finish t = pure a) (expected : String) (asList : Reader α) :
    (record room expected (Reader.members member s >>= finish) asList).ReadsWithin room
      (.object members) a := by
  have hfields : ∀ u, (if ∀ m ∈ members, m.2.nesting ≤ room - 1 then some t else none) = some u →
      finish u = pure a := by
    intro u hu
    obtain ⟨_, hu⟩ := Option.ite_none_right_eq_some.1 hu
    exact Option.some.inj hu ▸ hfinish
  have hitems := (readsItems_members h).bind_pure hfields
  rw [Option.map_if] at hitems
  rw [ReadsWithin, Value.written_object]
  simp only [Value.nesting_object_le_iff]
  intro ws hws w hw rest
  obtain ⟨inside, hinside, hsplit⟩ := mem_enclosed_append hw
  rw [hsplit]
  exact .after (peek?_eq hws rfl _)
    (gives_enclosed (fun _ => hitems) endObject_closing id '\x7b' hinside rest)

end TakesMembers
end Reader

end DialectConversion.Json
