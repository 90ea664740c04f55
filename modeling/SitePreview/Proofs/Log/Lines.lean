import SitePreview.Log.Record
import SitePreview.Proofs.Json.QuotedText

/-! Lines of log records. A record whose context adds texts to it is written on one line, and each of
its texts is read back from there as it was. -/

namespace SitePreview.Log.Record

open Text CodePoint

variable {r : Record} {t : Timestamp}

/-- The attributes that a record has of its own. -/
def ownNames : List Text := ["created", "msg", "args", "exc_info", "levelname", "name"]

/-- The message has no arguments, and the context only adds to the record. What is written of the
context are texts. -/
structure IsPlain (r : Record) : Prop where
  arguments : r.arguments = []
  own : ∀ name ∈ ownNames, r.attribute? name = none
  texts : ∀ name ∈ contextNames, ∀ v ∈ r.attribute? name, v = .null ∨ ∃ text, v = .string text

/-- The text that the context holds under a name. -/
def extra? (r : Record) (name : Text) : Option Text := (r.attribute? name).bind Json.asText?

/-- The texts that the context adds, by name. -/
def extras (r : Record) : List (Text × Text) :=
  contextNames.filterMap fun name => (r.extra? name).map fun text => (name, text)

/-- The texts of a record, by name. -/
def fields (r : Record) (t : Timestamp) : List (Text × Text) :=
  let always : List (Text × Text) :=
    [("timestamp", t.iso), ("level", levelName r.level), ("logger", r.logger),
      ("message", r.message)]
  let failure : List (Text × Text) := r.failure.toList.map fun f => ("exc_info", f.report)
  always ++ r.extras ++ failure

theorem IsPlain.writtenContext_eq (h : r.IsPlain) :
    r.writtenContext = r.extras.map fun f => (f.1, .string f.2) := by
  rw [writtenContext, extras, List.map_filterMap]
  refine List.filterMap_congr fun name hname => ?_
  rw [extra?, attribute?]
  cases hv : r.context.lookup name with
  | none => rfl
  | some v =>
    rcases h.texts name hname v hv with rfl | ⟨text, rfl⟩
    · rfl
    · rfl

/-- Nothing but texts is written. -/
theorem IsPlain.members_eq (h : r.IsPlain) (ht : Log.moment r.created = .ok t) :
    r.members = .ok ((r.fields t).map fun f => (f.1, .string f.2)) := by
  have hown := h.own
  simp only [ownNames, List.forall_mem_cons] at hown
  obtain ⟨hcreated, hmsg, hargs, hexc, hlevel, hname, -⟩ := hown
  have hmoment : r.moment = .ok t := by
    rw [moment, hcreated, Option.getD_none, ht]
    rfl
  have htext : r.text = .ok r.message := by
    rw [text, hmsg, hargs, h.arguments]
    rfl
  have hreported : r.reported = .ok r.failure := by
    rw [reported, hexc]
  rw [members, hmoment, htext, hreported, hlevel, hname, h.writtenContext_eq]
  cases hfailure : r.failure <;> simp [fields, hfailure, bind, Except.bind, pure, Except.pure]

/-- The names under which a text may be written, in their order. -/
def fieldNames : List Text :=
  ["timestamp", "level", "logger", "message", "project_id", "actor_id", "mode", "exc_info"]

theorem names_extras (r : Record) :
    r.extras.map Prod.fst = contextNames.filter fun name => (r.extra? name).isSome := by
  rw [extras, List.map_filterMap, ← List.filterMap_eq_filter]
  refine List.filterMap_congr fun name _ => ?_
  cases hextra : r.extra? name <;> simp [Option.guard, hextra]

theorem sublist_fields (r : Record) (t : Timestamp) :
    ((r.fields t).map Prod.fst).Sublist fieldNames := by
  have hextras : (r.extras.map Prod.fst).Sublist contextNames := by
    rw [names_extras]
    exact List.filter_sublist
  rw [fields, List.map_append, List.map_append]
  refine (hextras.append_left _).append ?_
  cases r.failure with
  | none => exact List.nil_sublist _
  | some f => exact List.Sublist.refl _

theorem nodup_fields (r : Record) (t : Timestamp) : ((r.fields t).map Prod.fst).Nodup :=
  (sublist_fields r t).nodup (by decide)

/-- A record is written on one line without control characters, and each of its texts is read back
from there as it was. -/
theorem line_parses_back (h : r.IsPlain) (ht : Log.moment r.created = .ok t) :
    ∃ line, r.line = .ok line ∧ (∀ c ∈ line, 0x20 ≤ c.val) ∧
      Json.parse? line = some (.object ((r.fields t).map fun f => (f.1, .string f.2))) := by
  have hne : r.fields t ≠ [] := by simp [fields]
  refine ⟨(Json.ofFields (r.fields t)).toText .line, ?_, fun c hc => ?_, ?_⟩
  · rw [line, h.members_eq ht]
    rfl
  · exact Json.le_val_of_mem_toText_ofFields hne hc
  · exact Json.parse?_toText_ofFields hne (nodup_fields r t)

/-- A record with quotes, backslashes and control characters in its texts. -/
def sample : Record where
  logger := "preview.\"cli\""
  level := 20
  message := "C:\\site\n\x00 100%"
  created := .int 1704067200
  context := [("mode", .string "\t\x7f"), ("project_id", .string "p\\\"1"), ("request", .int 7)]
  failure := some ⟨"ValueError", "line 1\nline 2"⟩

theorem isPlain_sample : sample.IsPlain where
  arguments := rfl
  own := by decide
  texts := by
    simp only [contextNames, List.forall_mem_cons]
    exact ⟨fun v hv => .inr ⟨_, (Option.some.inj hv).symm⟩, fun v hv => (nomatch hv),
      fun v hv => .inr ⟨_, (Option.some.inj hv).symm⟩, by simp⟩

theorem line_parses_back_sample :
    sample.IsPlain ∧ Log.moment sample.created = .ok { seconds := 1704067200 } ∧
      ∃ line, sample.line = .ok line ∧ (∀ c ∈ line, 0x20 ≤ c.val) ∧
        Json.parse? line = some (.object
          ((sample.fields { seconds := 1704067200 }).map fun f => (f.1, .string f.2))) := by
  have htime : Log.moment sample.created = .ok { seconds := 1704067200 } := by decide +kernel
  exact ⟨isPlain_sample, htime, line_parses_back isPlain_sample htime⟩

end SitePreview.Log.Record
