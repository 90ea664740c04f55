import SitePreview.Proofs.Project.Storable

/-! The arguments of operations: which texts come with them, and the files, names and messages that
are made of these texts. -/

namespace SitePreview

namespace Given

/-- A text is given, which may hold surrogates. -/
def IsText (g : Given) : Prop := ∃ t : Text, g = .text t

/-- A text is given, or nothing. -/
def IsTextOrNothing (g : Given) : Prop := ∃ t : Option Text, g = .ofText? t

theorem written_text {t : Text} : (text t).Written ↔ t.isUtf8 = true := by
  constructor
  · rintro ⟨u, hu, h⟩
    exact Given.text.inj h ▸ hu
  · exact fun h => ⟨t, h, rfl⟩

theorem writtenOrNothing_ofText? {t : Option Text} :
    (ofText? t).WrittenOrNothing ↔ ∀ x ∈ t, x.isUtf8 = true := by
  constructor
  · rintro ⟨u, hu, h⟩
    have htu : t = u := by cases t <;> cases u <;> simp_all [ofText?]
    exact htu ▸ hu
  · exact fun h => ⟨t, h, rfl⟩

end Given

theorem Template.isUtf8_resolve_name (asked : Given) : (resolve asked).name.isUtf8 = true := by
  unfold resolve
  split
  · decide
  split
  · next t _ =>
    have hall : ∀ p ∈ all, p.name.isUtf8 = true := by decide
    cases hfind : all.find? fun p => p.name = t with
    | none => decide
    | some p => exact hall p (List.mem_of_find?_eq_some hfind)
  · decide

namespace Operation

variable {project : Text} {op : Operation}

/-- Operations that only read: of what is shared they change nothing. -/
def reads : Operation → Bool
  | content _ | listFiles | snapshot | status | render _ | history _ => true
  | _ => false

/-- The texts that come with the operation are texts, and none holds a surrogate. Of files and edits
nothing is asked. -/
def Plain : Operation → Prop
  | create owner name template _ =>
    owner.Written ∧ name.Written ∧ template.WrittenOrNothing
  | sync _ actor message name =>
    actor.Written ∧ message.WrittenOrNothing ∧ name.WrittenOrNothing
  | _ => True

/-- The texts that come with the operation are texts, with surrogates or without. -/
def Textual : Operation → Prop
  | create owner name template _ => owner.IsText ∧ name.IsText ∧ template.IsTextOrNothing
  | sync _ actor message name => actor.IsText ∧ message.IsTextOrNothing ∧ name.IsTextOrNothing
  | _ => True

theorem Plain.textual (h : op.Plain) : op.Textual := by
  have text {g : Given} (hg : g.Written) : g.IsText := hg.imp fun _ ht => ht.2
  have textOrNothing {g : Given} (hg : g.WrittenOrNothing) : g.IsTextOrNothing :=
    hg.imp fun _ ht => ht.2
  cases op with
  | create => exact ⟨text h.1, text h.2.1, textOrNothing h.2.2⟩
  | sync => exact ⟨text h.1, textOrNothing h.2.1, textOrNothing h.2.2⟩
  | write | content | listFiles | snapshot | status | render | summary | history | delete =>
    trivial

theorem legal_of_check {files : FileSet} (hcheck : op.check = .ok ())
    (hfiles : op.newFiles? = some files) : files.Legal := by
  rw [check] at hcheck
  split at hcheck
  · cases hcheck
  · rw [hfiles] at hcheck
    dsimp only at hcheck
    unfold Snapshot.checkFiles at hcheck
    split at hcheck
    · cases hcheck
    · next h => exact h

theorem start_textual {template : Given} (ht : template.IsTextOrNothing) (files : Option FileSet) :
    ∃ (created : FileSet) (t : Option Text) (message : Text),
      start template files = (created, .ofText? t, message) := by
  cases files with
  | some files =>
    obtain ⟨t, rfl⟩ := ht
    exact ⟨files, t, _, rfl⟩
  | none => exact ⟨_, some (Template.resolve template).name, _, rfl⟩

theorem start_written {template : Given} (ht : template.WrittenOrNothing)
    (files : Option FileSet) :
    ∃ (created : FileSet) (t : Option Text) (message : Text),
      start template files = (created, .ofText? t, message) ∧
      (∀ x ∈ t, x.isUtf8 = true) ∧ message.isUtf8 = true := by
  cases files with
  | some files =>
    obtain ⟨t, ht, rfl⟩ := ht
    exact ⟨files, t, _, rfl, ht, by decide⟩
  | none =>
    have hname := Template.isUtf8_resolve_name template
    refine ⟨_, some (Template.resolve template).name, _, rfl, ?_, ?_⟩
    · intro x hx
      cases hx
      exact hname
    · rw [Text.isUtf8_append, hname]
      decide

/-- The name that is given, if it is not empty, or else another. -/
def namedOr (other : Text) : Option Text → Text
  | none => other
  | some t => if t = [] then other else t

theorem namedOr_spec (other : Text) (name : Option Text) :
    namedOr other name = other ∨ namedOr other name ∈ name := by
  cases name with
  | none => exact .inl rfl
  | some t =>
    rw [namedOr]
    split
    · exact .inl rfl
    · exact .inr rfl

theorem isUtf8_namedOr {other : Text} {name : Option Text} (ho : other.isUtf8 = true)
    (hname : ∀ t ∈ name, t.isUtf8 = true) : (namedOr other name).isUtf8 = true := by
  rcases namedOr_spec other name with h | h
  · exact h.symm ▸ ho
  · exact hname _ h

theorem nameOrProject (project : Text) (name : Option Text) :
    (if (Given.ofText? name).isNothing then .text project else .ofText? name) =
      Given.text (namedOr project name) := by
  cases name with
  | none => rfl
  | some t => by_cases h : t = [] <;> simp [namedOr, Given.ofText?, Given.isNothing, h]

/-- The name of a project that is synchronised stays a text. -/
theorem newName?_getD (known : Text) (name : Option Text) :
    (newName? known (.ofText? name)).getD (known, .text) = (namedOr known name, .text) := by
  cases name with
  | none => rfl
  | some t => by_cases h : t = [] <;> simp [newName?, namedOr, Given.ofText?, Given.isNothing, h]

end Operation

end SitePreview
