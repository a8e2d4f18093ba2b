import NoKnowledge.Crypto.Padding
import NoKnowledge.Foundation.JsonWidth

/-!
# The size of padded envelopes

A padded envelope fills its bucket, or the whole limit when the bucket ends
behind it, whatever padding is drawn: the padding text is written as it is, one
octet for each character.  So the size tells the bucket and nothing else, and
the checks that guard the arithmetic of the padding never fail.
-/

namespace NoKnowledge

namespace Padding

variable {draw : Nat → Nat} {envelope : Json} {limit : Nat}

/-- Octets of an envelope whose padding is empty. -/
def baseLength (envelope : Json) : Nat :=
  (canonicalJson (envelope.setField "pad" (.str ""))).length

/-- The padding that is drawn. -/
def padText (draw : Nat → Nat) (count : Nat) : List Char :=
  (List.range count).map fun place => padAlphabet.getD (draw place % 62) 'A'

def padded (draw : Nat → Nat) (envelope : Json) (count : Nat) : Bytes :=
  canonicalJson (envelope.setField "pad" (.str (String.ofList (padText draw count))))

/-- The error of an envelope that is too large. -/
def tooLarge (envelope : Json) (limit : Nat) : Raised :=
  { class_ := .padding
    text := "envelope body is " ++ toString (baseLength envelope) ++
      " bytes, exceeds limit " ++ toString limit }

private theorem bare_table : ∀ place, place < 62 → Json.Bare (padAlphabet.getD place 'A') := by
  decide

theorem bare_padText (draw : Nat → Nat) (count : Nat) :
    ∀ character ∈ padText draw count, Json.Bare character := by
  intro character member
  obtain ⟨place, -, rfl⟩ := List.mem_map.mp member
  exact bare_table _ (Nat.mod_lt _ (by decide))

theorem length_padText (count : Nat) : (padText draw count).length = count := by
  simp [padText]

theorem fresh_of_get? {fields : List (String × Json)} {key : String}
    (absent : (Json.obj fields).get? key = none) : key ∉ fields.map Prod.fst := by
  intro member
  obtain ⟨field, fieldMember, rfl⟩ := List.mem_map.mp member
  have different := List.lookup_eq_none_iff.mp absent field fieldMember
  simp at different

/-- Removing a field that is not there changes nothing. -/
theorem eraseField_of_get? {target : Json} {key : String} (absent : target.get? key = none) :
    target.eraseField key = target := by
  cases target with
  | obj fields =>
      have fresh := fresh_of_get? absent
      have kept : fields.filter (fun field => field.1 ≠ key) = fields := by
        rw [List.filter_eq_self]
        intro field member
        have different : field.1 ≠ key := by
          rintro rfl
          exact fresh (List.mem_map_of_mem member)
        exact decide_eq_true different
      exact congrArg Json.obj kept
  | _ => rfl

/-- Octets of an object with one more text field. -/
theorem length_setField_text {fields : List (String × Json)} {key : String}
    {text : List Char} (canonical : (Json.obj fields).Canonical)
    (fresh : key ∉ fields.map Prod.fst)
    (bare : ∀ character ∈ text, Json.Bare character) :
    (canonicalJson ((Json.obj fields).setField key (.str (String.ofList text)))).length =
      5 + Json.keyWidth key + text.length + Json.fieldsWidth fields := by
  have value : (Json.str (String.ofList text)).width = 2 + text.length := by
    rw [Json.width_str, Json.keyWidth_bare bare]
  have written : (Json.str (String.ofList text)).Canonical := trivial
  have inserted := Json.insertField_perm (.str (String.ofList text)) fresh
  have filled : Json.insertField key (.str (String.ofList text)) fields ≠ [] := by
    intro empty
    rw [empty] at inserted
    exact List.cons_ne_nil _ _ inserted.symm.eq_nil
  rw [Json.length_canonicalJson (Json.canonical_setField canonical written key), Json.setField,
    Json.width_obj filled, Json.fieldsWidth_perm inserted, Json.fieldsWidth_cons, value]
  dsimp only
  omega

/-- Every character of padding is one octet. -/
theorem length_padded (draw : Nat → Nat) (canonical : envelope.Canonical)
    (object : envelope.isObj = true) (unpadded : envelope.get? "pad" = none) (count : Nat) :
    (padded draw envelope count).length = baseLength envelope + count := by
  cases envelope with
  | obj fields =>
      have fresh := fresh_of_get? unpadded
      have nothing : ∀ character ∈ ([] : List Char), Json.Bare character := nofun
      have empty := length_setField_text canonical fresh nothing
      have full := length_setField_text canonical fresh (bare_padText draw count)
      rw [length_padText] at full
      have same : String.ofList [] = "" := rfl
      rw [same, List.length_nil] at empty
      rw [padded, full, baseLength, empty]
      omega
  | _ => cases object

/-- The bucket, or the limit when the bucket ends behind it. -/
theorem paddedSize_eq (limit base : Nat) :
    paddedSize base bucketSize (some limit) = min limit (256 * (base / 256 + 1)) := by
  have bucket : max bucketSize ((base / bucketSize + 1) * bucketSize) =
      256 * (base / 256 + 1) := by
    rw [bucketSize]
    omega
  dsimp only [paddedSize]
  rw [bucket]
  split <;> omega

theorem padEnvelope_exceeds (exceeds : limit < baseLength envelope) :
    padEnvelope draw envelope (some limit) = .error (tooLarge envelope limit) := by
  have refused : (some limit).any (fun limit => decide (limit <
      (canonicalJson (envelope.setField "pad" (.str ""))).length)) = true :=
    decide_eq_true exceeds
  rw [padEnvelope, refused]
  rfl

/-- An envelope within the limit is padded up to its bucket. -/
theorem padEnvelope_fits (canonical : envelope.Canonical) (object : envelope.isObj = true)
    (unpadded : envelope.get? "pad" = none) (fits : baseLength envelope ≤ limit) :
    padEnvelope draw envelope (some limit) =
      .ok (padded draw envelope
        (min limit (256 * (baseLength envelope / 256 + 1)) - baseLength envelope)) := by
  have size := paddedSize_eq limit (baseLength envelope)
  have room : baseLength envelope ≤ min limit (256 * (baseLength envelope / 256 + 1)) := by
    omega
  have within : decide (limit < baseLength envelope) = false :=
    decide_eq_false (Nat.not_lt.mpr fits)
  have length := length_padded draw canonical object unpadded
    (min limit (256 * (baseLength envelope / 256 + 1)) - baseLength envelope)
  rw [Nat.add_sub_cancel' room] at length
  have filled : decide (min limit (256 * (baseLength envelope / 256 + 1)) ≠
      min limit (256 * (baseLength envelope / 256 + 1))) = false :=
    decide_eq_false (not_not.mpr rfl)
  unfold padEnvelope
  dsimp only
  rw [← baseLength, Option.any_some, within, size, decide_eq_false (Nat.not_lt.mpr room),
    ← padText, ← padded, length, filled]
  rfl

theorem unpadEnvelope_padded (canonical : envelope.Canonical) (object : envelope.isObj = true)
    (unpadded : envelope.get? "pad" = none) (count : Nat) :
    unpadEnvelope (padded draw envelope count) = .ok envelope := by
  have text : (Json.str (String.ofList (padText draw count))).Canonical := trivial
  have loaded := loadJson_canonicalJson (Json.canonical_setField canonical text "pad")
  have removed : (envelope.setField "pad"
      (.str (String.ofList (padText draw count)))).eraseField "pad" = envelope := by
    rw [Json.eraseField_setField, eraseField_of_get? unpadded]
  rw [unpadEnvelope, padded, loaded]
  cases envelope with
  | obj fields => exact congrArg Except.ok removed
  | _ => cases object

/-- An envelope is refused when it exceeds the limit, and no other error is raised.
Otherwise it fills its bucket, as any other envelope of the bucket does, and comes
back as it was. -/
theorem padding_hides_length {envelope : Json} (canonical : envelope.Canonical)
    (object : envelope.isObj = true) (unpadded : envelope.get? "pad" = none)
    (draw : Nat → Nat) (limit : Nat) :
    (limit < baseLength envelope →
      padEnvelope draw envelope (some limit) = .error (tooLarge envelope limit)) ∧
    (baseLength envelope ≤ limit →
      ∃ data, padEnvelope draw envelope (some limit) = .ok data ∧
        data.length = min limit (256 * (baseLength envelope / 256 + 1)) ∧
        unpadEnvelope data = .ok envelope) ∧
    ∀ (other : Json) (draw' : Nat → Nat) (data data' : Bytes), other.Canonical →
      other.isObj = true → other.get? "pad" = none →
      baseLength other / 256 = baseLength envelope / 256 →
      padEnvelope draw envelope (some limit) = .ok data →
      padEnvelope draw' other (some limit) = .ok data' → data'.length = data.length := by
  have sized : ∀ {envelope : Json} {draw : Nat → Nat} {data : Bytes}, envelope.Canonical →
      envelope.isObj = true → envelope.get? "pad" = none →
      padEnvelope draw envelope (some limit) = .ok data →
      data.length = min limit (256 * (baseLength envelope / 256 + 1)) := by
    intro envelope draw data canonical object unpadded returned
    rcases Nat.lt_or_ge limit (baseLength envelope) with exceeds | fits
    · rw [padEnvelope_exceeds exceeds] at returned
      cases returned
    · rw [padEnvelope_fits canonical object unpadded fits] at returned
      cases returned
      rw [length_padded draw canonical object unpadded]
      omega
  refine ⟨padEnvelope_exceeds, ?_, ?_⟩
  · intro fits
    have returned : padEnvelope draw envelope (some limit) = _ :=
      padEnvelope_fits canonical object unpadded fits
    exact ⟨_, returned, sized canonical object unpadded returned,
      unpadEnvelope_padded canonical object unpadded _⟩
  · intro other draw' data data' otherCanonical otherObject otherUnpadded bucket returned
      otherReturned
    rw [sized otherCanonical otherObject otherUnpadded otherReturned, bucket,
      sized canonical object unpadded returned]

/-- Two octets of one character count twice. -/
theorem padding_hides_length_specimen :
    ∃ data, padEnvelope (fun _ => 0) (.obj [("body", .str "é")]) (some 2048) = .ok data ∧
      data.length = 256 ∧ unpadEnvelope data = .ok (.obj [("body", .str "é")]) := by
  have base : baseLength (.obj [("body", .str "é")]) = 22 := by decide
  have canonical : (Json.obj [("body", .str "é")]).Canonical := by
    exact ⟨by decide, trivial, trivial⟩
  have sizes := (padding_hides_length canonical rfl rfl (fun _ => 0) 2048).2.1
  rw [base] at sizes
  exact sizes (by decide)

end Padding

end NoKnowledge
