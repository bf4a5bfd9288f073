import ActionGateway.Proofs.EnvelopeContract
import ActionGateway.Proofs.JsonReading

/-!
# Two forms, one value

Payloads, error records and envelopes have a JSON value, `toJson`, and a form in which they are
written out, `written`. The two are defined apart, and they do differ: the descriptor of a file is
written in another order, and a record writes an extra member named `__type` or `message` after the
fixed one, which has no place beside it in the value. The difference is one that no reader sees:

* put in order, the two forms are **one value** (`Payload.sorted_written`, …);
* what the value leaves out is a text, so a form that is written **fits** a reader if the value does
  (`Payload.fits_written`, …).

With `Json.read_text_eq_sorted` it follows that the text which is written out denotes the value
(`text_denotes_toJson`).
-/

namespace ActionGateway

namespace Json

variable {levels : Nat} {value : Json} {pairs : List (String × Json)}

/-! ## Readers

A reader has bounds: on the numbers that it takes for integers, and on how deep it goes. Both are
asked of the value. That what is written keeps within them does not follow from the value at once,
since what is written may hold members which the value leaves out. -/

/-- A reader takes in the value: its numbers are integers of 64 bits, and its arrays and objects are
nested to no more than so many levels. -/
structure Fits (levels : Nat) (value : Json) : Prop where
  integral : value.Integral
  depth : value.depth ≤ levels

/-- A value that can be told from its text: one that a reader takes in, and whose objects are in
order, as maps are. -/
structure Readable (value : Json) : Prop where
  orderly : value.Orderly
  fits : value.Fits 127

/-- What can be told from its text is told by it, whatever form is written that agrees with it when
put in order. -/
theorem Readable.read_text {form : Json} (h : value.Readable) (hfits : form.Fits 127)
    (hsorted : form.sorted = value.sorted) : read (Utf8.encode form.text) = .ok value := by
  rw [read_text_eq_sorted hfits.integral hfits.depth, hsorted, sorted_of_orderly h.orderly]

/-- A text fits every reader. -/
theorem fits_str (levels : Nat) (s : String) : Fits levels (str s) :=
  ⟨trivial, Nat.zero_le levels⟩

/-- An object takes up one level, and its members the others. -/
theorem fits_obj_iff :
    Fits levels (obj pairs) ↔ ∃ below, levels = below + 1 ∧ ∀ pair ∈ pairs, Fits below pair.2 := by
  constructor
  · intro h
    have hintegral := h.integral
    have hdepth := h.depth
    rw [Integral, integralMembers_iff] at hintegral
    rw [depth] at hdepth
    obtain ⟨below, rfl⟩ : ∃ below, levels = below + 1 := ⟨levels - 1, by omega⟩
    have hmembers := depthMembers_le_iff.mp (Nat.le_of_succ_le_succ hdepth)
    exact ⟨below, rfl, fun pair hmem => ⟨hintegral pair hmem, hmembers pair hmem⟩⟩
  · rintro ⟨below, rfl, hmembers⟩
    constructor
    · rw [Integral, integralMembers_iff]
      exact fun pair hmem => (hmembers pair hmem).integral
    · rw [depth]
      exact Nat.succ_le_succ (depthMembers_le_iff.mpr fun pair hmem => (hmembers pair hmem).depth)

/-- Pairs fit as they are listed if they fit in order, where only texts get lost in sorting. -/
theorem Fits.of_object (h : Fits levels (object pairs))
    (hkept : ∀ pair ∈ pairs, pair ∈ Entries.sort pairs ∨ ∃ s, pair.2 = str s) :
    Fits levels (obj pairs) := by
  obtain ⟨below, rfl, hmembers⟩ := fits_obj_iff.mp h
  refine fits_obj_iff.mpr ⟨below, rfl, fun pair hmem => ?_⟩
  -- a pair that sorting keeps is one of the value, and one that it drops is a text
  rcases hkept pair hmem with hsort | ⟨s, hs⟩
  · exact hmembers pair hsort
  · rw [hs]
    exact fits_str below s

end Json

/-! ## Payloads

The value of a field is written as it is, except for a file: of its descriptor the members are
written in the order of the declaration, and the value has them by name. -/

/-- The two forms of a value are one when they are put in order. -/
theorem FieldValue.sorted_written (value : FieldValue) :
    value.written.sorted = value.toJson.sorted := by
  cases value with
  | text s => rfl
  | list items => rfl
  | json v => rfl
  | file f => exact (Json.sorted_object f.descriptor).symm

/-- What is written for a value fits a reader if the value does. -/
theorem FieldValue.fits_written {levels : Nat} {value : FieldValue} (h : value.toJson.Fits levels) :
    value.written.Fits levels := by
  cases value with
  | text s => exact h
  | list items => exact h
  | json v => exact h
  | file f =>
    -- the members of a descriptor have different names, so that none gets lost
    have hnames : (f.descriptor.map Prod.fst).Nodup := by
      show ["filename", "content_type", "size"].Nodup
      decide
    exact Json.Fits.of_object h fun pair hmem => .inl ((Entries.mem_sort_iff hnames pair).mpr hmem)

namespace Payload

/-- **A payload is written in one of the orders of its value.** The two forms differ only inside the
descriptors of files. -/
theorem sorted_written (p : Payload) : p.written.sorted = p.toJson.sorted := by
  rw [written, toJson, Json.ofNameMap, Json.ofNameMap, Json.sorted_obj, Json.sorted_obj]
  simp only [NameMap.map, List.map_map, Function.comp_def, FieldValue.sorted_written]

theorem fits_written {levels : Nat} {p : Payload} (h : p.toJson.Fits levels) :
    p.written.Fits levels := by
  obtain ⟨below, rfl, hmembers⟩ := Json.fits_obj_iff.mp h
  refine Json.fits_obj_iff.mpr ⟨below, rfl, fun pair hmem => ?_⟩
  obtain ⟨field, hfield, rfl⟩ := List.mem_map.mp hmem
  exact FieldValue.fits_written (hmembers _ (List.mem_map_of_mem hfield))

end Payload

/-! ## Error records

A record writes its label, its message and its extra members, one after the other. If an extra
member is named like one of the first two, it comes later and counts; the one that it hides is a
text. -/

namespace ErrorRecord

/-- **A record is written in one of the orders of its value**, up to what the value leaves out. -/
theorem sorted_written (r : ErrorRecord) : r.written.sorted = r.toJson.sorted :=
  (Json.sorted_object r.members).symm

/-- A member of a record is a text, or it is an extra member and kept. -/
theorem kept_or_text (r : ErrorRecord) {pair : String × Json} (h : pair ∈ r.members) :
    pair ∈ Entries.sort r.members ∨ ∃ s, pair.2 = .str s := by
  rcases List.mem_cons.mp h with rfl | h
  · exact .inr ⟨r.errorType, rfl⟩
  rcases List.mem_append.mp h with hmessage | hextra
  · obtain ⟨m, -, rfl⟩ := Option.map_eq_some_iff.mp (Option.mem_toList.mp hmessage)
    exact .inr ⟨m, rfl⟩
  · refine .inl ?_
    rw [members, ← List.cons_append]
    exact Entries.mem_sort_append (Entries.nodup_names_of_ascending r.extra.ascending) hextra

theorem fits_written {levels : Nat} {r : ErrorRecord} (h : r.toJson.Fits levels) :
    r.written.Fits levels :=
  Json.Fits.of_object h fun _ => r.kept_or_text

end ErrorRecord

/-! ## Envelopes

The members of an envelope are named by the program, so none hides another. What is in them may be
anything: the result of an action is written as it is, and an error record in its own form. -/

namespace Envelope

/-- The members that are written are those of the value, but for the form of the error record. -/
theorem mem_members_written {e : Envelope} {pair : String × Json}
    (h : pair ∈ e.members ErrorRecord.written) :
    pair ∈ e.members ErrorRecord.toJson ∨
      ∃ record, e.error? = some record ∧ pair = ("error", record.written) := by
  simp only [members, List.mem_append, List.mem_cons, Option.mem_toList,
    Option.map_eq_some_iff] at h ⊢
  rcases h with hhelp | hsuccess | (hresult | ⟨record, hrecord, rfl⟩) | hchanged
  · exact .inl (.inl hhelp)
  · exact .inl (.inr (.inl hsuccess))
  · exact .inl (.inr (.inr (.inl (.inl hresult))))
  · exact .inr ⟨record, hrecord, rfl⟩
  · exact .inl (.inr (.inr (.inr hchanged)))

/-- **An envelope is written in one of the orders of its value.** -/
theorem sorted_written (e : Envelope) : e.written.sorted = e.toJson.sorted := by
  rw [toJson, Json.sorted_object, written, Json.sorted_obj, Json.sorted_obj]
  obtain ⟨help, outcome, changed⟩ := e
  cases outcome with
  | ok result => rfl
  | error record => simp [members, error?, ErrorRecord.sorted_written]

theorem fits_written {levels : Nat} {e : Envelope} (h : e.toJson.Fits levels) :
    e.written.Fits levels := by
  obtain ⟨below, rfl, hsorted⟩ := Json.fits_obj_iff.mp h
  have hmembers {pair : String × Json} (hmem : pair ∈ e.members ErrorRecord.toJson) :
      pair.2.Fits below :=
    hsorted pair ((Entries.mem_sort_iff (nodup_names_members e) pair).mpr hmem)
  refine Json.fits_obj_iff.mpr ⟨below, rfl, fun pair hmem => ?_⟩
  rcases mem_members_written hmem with hmem | ⟨record, hrecord, rfl⟩
  · exact hmembers hmem
  · have herror : ("error", record.toJson) ∈ e.members ErrorRecord.toJson :=
      (mem_members_iff e "error" record.toJson).mpr (.error record hrecord)
    exact ErrorRecord.fits_written (hmembers herror)

end Envelope

/-! ## All three -/

/-- **The text that is written out denotes the value.** Whoever reads the text of a payload, an
error record or an envelope, the last of several members of one name counting, has its JSON value,
if that value can be told from a text at all. -/
theorem text_denotes_toJson :
    (∀ p : Payload, p.toJson.Readable → Json.read (Utf8.encode p.text) = .ok p.toJson) ∧
      (∀ r : ErrorRecord, r.toJson.Readable → Json.read (Utf8.encode r.text) = .ok r.toJson) ∧
      ∀ e : Envelope, e.toJson.Readable → Json.read (Utf8.encode e.text) = .ok e.toJson := by
  refine ⟨fun p h => ?_, fun r h => ?_, fun e h => ?_⟩
  · exact h.read_text (Payload.fits_written h.fits) p.sorted_written
  · exact h.read_text (ErrorRecord.fits_written h.fits) r.sorted_written
  · exact h.read_text (Envelope.fits_written h.fits) e.sorted_written

/-- A file, and a record whose fixed members are both written twice, by itself and in an
envelope. -/
theorem text_denotes_toJson_colliding :
    let payload : Payload := NameMap.empty.insert "upload" (.file ⟨some "a.txt", none, [0x41]⟩)
    let record : ErrorRecord :=
      ((ErrorRecord.new "Validation Error" "bad").extend "message" (.arr [.null])).extend "__type"
        (.num (.int 7 (by decide)))
    let envelope : Envelope :=
      (Envelope.failure none record).withChangedEntities (NameMap.empty.insert "user" ["u1"])
    let descriptor : Json :=
      .obj [("content_type", .null), ("filename", .str "a.txt"),
        ("size", .num (.int 1 (by decide)))]
    let shown : Json := .obj [("__type", .num (.int 7 (by decide))), ("message", .arr [.null])]
    Json.read (Utf8.encode payload.text) = .ok (.obj [("upload", descriptor)]) ∧
      Json.read (Utf8.encode record.text) = .ok shown ∧
      Json.read (Utf8.encode envelope.text) =
        .ok (.obj [("changed_entities", .obj [("user", .arr [.str "u1"])]), ("error", shown),
          ("success", .bool false)]) := by
  intro payload record envelope descriptor shown
  have hpayload : payload.toJson = .obj [("upload", descriptor)] := by
    simp only [payload, descriptor]
    rfl
  have hrecord : record.toJson = shown := by
    simp only [record, shown]
    rfl
  have henvelope : envelope.toJson = .obj [("changed_entities", .obj [("user", .arr [.str "u1"])]),
      ("error", shown), ("success", .bool false)] := by
    simp only [envelope, record, shown]
    rfl
  have hdescriptor : descriptor.Readable :=
    ⟨⟨by decide +kernel, trivial, trivial, trivial, trivial⟩,
      ⟨⟨trivial, trivial, trivial, trivial⟩, by decide⟩⟩
  have hshown : shown.Readable :=
    ⟨⟨by decide +kernel, trivial, ⟨trivial, trivial⟩, trivial⟩,
      ⟨⟨trivial, ⟨trivial, trivial⟩, trivial⟩, by decide⟩⟩
  obtain ⟨hpayloads, hrecords, henvelopes⟩ := text_denotes_toJson
  rw [← hpayload, ← henvelope, ← hrecord]
  refine ⟨hpayloads payload ?_, hrecords record ?_, henvelopes envelope ?_⟩
  · rw [hpayload]
    exact ⟨⟨by decide, hdescriptor.orderly, trivial⟩,
      ⟨⟨hdescriptor.fits.integral, trivial⟩, by decide⟩⟩
  · rw [hrecord]
    exact hshown
  · rw [henvelope]
    exact ⟨⟨by decide +kernel, ⟨by decide, ⟨trivial, trivial⟩, trivial⟩, hshown.orderly, trivial,
        trivial⟩,
      ⟨⟨⟨⟨trivial, trivial⟩, trivial⟩, hshown.fits.integral, trivial, trivial⟩, by decide⟩⟩

end ActionGateway
