import ProxyTunnels.Http3.Varint

/-! HTTP/3 frames, as the vendored `Frame::decode` reads them from a byte buffer.

A DATA frame is decoded to its length only; every other frame waits for its whole
payload. A frame whose payload is one integer is taken to end after that integer,
whatever its declared length.
-/

set_option autoImplicit false

namespace ProxyTunnels.Http3

inductive SettingsError where
  | exceeded
  | malformed
  | repeated (id : Nat)
  | invalidSettingId (id : Nat)
  deriving DecidableEq, Repr

/-- `SettingId::is_supported`. -/
def settingSupported (id : Nat) : Bool :=
  id ∈ [0x6, 0x1, 0x7, 0x8, 0x2b603742, 0x2b603743, 0x33]

/-- `SettingId::is_forbidden`. -/
def settingForbidden (id : Nat) : Bool := id ∈ [0x0, 0x2, 0x3, 0x4, 0x5]

/-- `Settings::insert`, on a table of at most eight entries. -/
def insertSetting (entries : List (Nat × Nat)) (id value : Nat) :
    Except SettingsError (List (Nat × Nat)) :=
  if 8 ≤ entries.length then .error .exceeded
  else if entries.any (fun entry => entry.1 == id) then .error (.repeated id)
  else .ok (entries ++ [(id, value)])

/-- `Settings::decode`. Each round reads two integers, so the bytes bound the rounds. -/
def decodeSettings : Nat → List UInt8 → List (Nat × Nat) → Except SettingsError (List (Nat × Nat))
  | _, [], entries => .ok entries
  | 0, _ :: _, _ => .error .malformed
  | rounds + 1, bytes, entries =>
      if bytes.length < 2 then .error .malformed
      else
        match getVar bytes with
        | .error _ => .error .malformed
        | .ok (id, afterId) =>
          match getVar afterId with
          | .error _ => .error .malformed
          | .ok (value, rest) =>
            if settingForbidden id then .error (.invalidSettingId id)
            else if settingSupported id then
              match insertSetting entries id value with
              | .error error => .error error
              | .ok entries => decodeSettings rounds rest entries
            else decodeSettings rounds rest entries

/-- `Frame<PayloadLen>`. -/
inductive Frame where
  | data (len : Nat)
  | headers (encoded : List UInt8)
  | cancelPush (id : Nat)
  | settings (entries : List (Nat × Nat))
  | pushPromise (id : Nat) (encoded : List UInt8)
  | goaway (id : Nat)
  | maxPushId (id : Nat)
  | webTransportStream (session : Nat)
  deriving DecidableEq, Repr

/-- The errors of `Frame::decode` that end a stream. An incomplete frame and an
unknown one are cases of `Decoded` instead. A decoded integer always fits a push or
stream identifier, so `InvalidPushId` and `InvalidStreamId` do not arise. -/
inductive FrameError where
  | unsupportedFrame (ty : Nat)
  | settings (error : SettingsError)
  deriving DecidableEq, Repr

/-- What `Frame::decode` makes of a buffer, with the bytes after what it consumed. -/
inductive Decoded where
  | incomplete (min : Nat)
  | failed (error : FrameError)
  | unknown (ty : Nat) (rest : List UInt8)
  | frame (frame : Frame) (rest : List UInt8)
  deriving DecidableEq, Repr

def decodeIdFrame (build : Nat → Frame) (payload after : List UInt8) : Decoded :=
  match getVar payload with
  | .error count => .incomplete count
  | .ok (id, unread) => .frame (build id) (unread ++ after)

def decodePayload (ty : Nat) (payload after : List UInt8) : Decoded :=
  match ty with
  | 0x1 => .frame (.headers payload) after
  | 0x4 =>
      match decodeSettings payload.length payload [] with
      | .ok entries => .frame (.settings entries) after
      | .error error => .failed (.settings error)
  | 0x3 => decodeIdFrame .cancelPush payload after
  | 0x5 =>
      match getVar payload with
      | .error count => .incomplete count
      | .ok (id, encoded) => .frame (.pushPromise id encoded) after
  | 0x7 => decodeIdFrame .goaway payload after
  | 0xd => decodeIdFrame .maxPushId payload after
  | 0x2 => .failed (.unsupportedFrame 0x2)
  | 0x6 => .failed (.unsupportedFrame 0x6)
  | 0x8 => .failed (.unsupportedFrame 0x8)
  | 0x9 => .failed (.unsupportedFrame 0x9)
  | other => .unknown other after

def Frame.decode (bytes : List UInt8) : Decoded :=
  match getVar bytes with
  | .error _ => .incomplete (bytes.length + 1)
  | .ok (ty, afterType) =>
    if ty = 0x41 then
      match getVar afterType with
      | .error count => .incomplete count
      | .ok (session, rest) => .frame (.webTransportStream session) rest
    else
      match getVar afterType with
      | .error _ => .incomplete (bytes.length + 1)
      | .ok (len, rest) =>
        if ty = 0x0 then .frame (.data len) rest
        else if rest.length < len then .incomplete (2 + len)
        else decodePayload ty (rest.take len) (rest.drop len)

def Decoded.append : Decoded → List UInt8 → Decoded
  | .incomplete min, _ => .incomplete min
  | .failed error, _ => .failed error
  | .unknown ty rest, more => .unknown ty (rest ++ more)
  | .frame found rest, more => .frame found (rest ++ more)

def Decoded.Settled : Decoded → Prop
  | .incomplete _ => False
  | _ => True

theorem decodeIdFrame_append {build : Nat → Frame} {payload after : List UInt8} (more : List UInt8) :
    decodeIdFrame build payload (after ++ more) = (decodeIdFrame build payload after).append more := by
  unfold decodeIdFrame
  cases getVar payload with
  | error count => rfl
  | ok result => simp only [Decoded.append, List.append_assoc]

theorem decodePayload_append {ty : Nat} {payload after : List UInt8} (more : List UInt8) :
    decodePayload ty payload (after ++ more) = (decodePayload ty payload after).append more := by
  unfold decodePayload
  split
  case h_2 => cases decodeSettings payload.length payload [] <;> rfl
  case h_4 => cases getVar payload <;> rfl
  all_goals first | rfl | exact decodeIdFrame_append more

theorem Frame.decode_append {bytes : List UInt8} (settled : (Frame.decode bytes).Settled)
    (more : List UInt8) : Frame.decode (bytes ++ more) = (Frame.decode bytes).append more := by
  unfold Frame.decode at settled ⊢
  cases typed : getVar bytes with
  | error count => simp [typed, Decoded.Settled] at settled
  | ok result =>
    obtain ⟨ty, afterType⟩ := result
    rw [getVar_append typed more]
    simp only [typed] at settled ⊢
    by_cases transport : ty = 0x41
    · simp only [if_pos transport] at settled ⊢
      cases counted : getVar afterType with
      | error count => simp [counted, Decoded.Settled] at settled
      | ok result =>
        rw [getVar_append counted more]
        rfl
    · simp only [if_neg transport] at settled ⊢
      cases counted : getVar afterType with
      | error count => simp [counted, Decoded.Settled] at settled
      | ok result =>
        obtain ⟨len, rest⟩ := result
        rw [getVar_append counted more]
        simp only [counted] at settled ⊢
        by_cases data : ty = 0x0
        · simp only [if_pos data]
          rfl
        · simp only [if_neg data] at settled ⊢
          by_cases short : rest.length < len
          · simp [if_pos short, Decoded.Settled] at settled
          · have fits : len ≤ rest.length := Nat.le_of_not_lt short
            rw [if_neg short, if_neg (by rw [List.length_append]; omega),
              List.take_append_of_le_length fits, List.drop_append_of_le_length fits]
            exact decodePayload_append more

def Decoded.rest? : Decoded → Option (List UInt8)
  | .unknown _ rest => some rest
  | .frame _ rest => some rest
  | _ => none

theorem decodePayload_rest {ty : Nat} {payload after rest : List UInt8}
    (left : (decodePayload ty payload after).rest? = some rest) :
    ∃ used unread, payload = used ++ unread ∧ rest = unread ++ after := by
  have whole : some after = some rest →
      ∃ used unread, payload = used ++ unread ∧ rest = unread ++ after := by
    intro same
    cases same
    exact ⟨payload, [], (List.append_nil _).symm, rfl⟩
  have counted : ∀ build : Nat → Frame, (decodeIdFrame build payload after).rest? = some rest →
      ∃ used unread, payload = used ++ unread ∧ rest = unread ++ after := by
    intro build left
    unfold decodeIdFrame at left
    cases decoded : getVar payload with
    | error count => simp [decoded, Decoded.rest?] at left
    | ok result =>
      simp only [decoded, Decoded.rest?, Option.some.injEq] at left
      obtain ⟨used, split⟩ := getVar_suffix decoded
      exact ⟨used, result.2, split, left.symm⟩
  unfold decodePayload at left
  split at left
  case h_2 =>
    split at left
    · exact whole left
    · cases left
  case h_4 =>
    split at left
    · cases left
    · exact whole left
  all_goals first | exact whole left | exact counted _ left | cases left

theorem decodePayload_incomplete {ty : Nat} {payload after : List UInt8} {min : Nat}
    (waiting : decodePayload ty payload after = .incomplete min) : min ≤ payload.length + 2 := by
  have counted : ∀ build : Nat → Frame, decodeIdFrame build payload after = .incomplete min →
      min ≤ payload.length + 2 := by
    intro build waiting
    unfold decodeIdFrame at waiting
    cases decoded : getVar payload with
    | error count =>
      simp only [decoded, Decoded.incomplete.injEq] at waiting
      exact waiting ▸ getVar_error decoded
    | ok result => simp [decoded] at waiting
  unfold decodePayload at waiting
  split at waiting
  case h_2 => split at waiting <;> cases waiting
  case h_4 =>
    split at waiting
    · rename_i count decoded
      cases waiting
      exact getVar_error decoded
    · cases waiting
  all_goals first | exact counted _ waiting | cases waiting

theorem Frame.decode_rest {bytes rest : List UInt8} (left : (Frame.decode bytes).rest? = some rest) :
    ∃ consumed, bytes = consumed ++ rest ∧ consumed ≠ [] := by
  suffices suffixed : ∃ consumed, bytes = consumed ++ rest ∧ rest.length < bytes.length by
    obtain ⟨consumed, same, shorter⟩ := suffixed
    refine ⟨consumed, same, ?_⟩
    rintro rfl
    rw [same] at shorter
    exact absurd shorter (Nat.lt_irrefl _)
  unfold Frame.decode at left
  cases typed : getVar bytes with
  | error count => simp [typed, Decoded.rest?] at left
  | ok result =>
    obtain ⟨ty, afterType⟩ := result
    obtain ⟨front, split⟩ := getVar_suffix typed
    have shorter := getVar_length typed
    simp only [typed] at left
    by_cases transport : ty = 0x41
    · simp only [if_pos transport] at left
      cases counted : getVar afterType with
      | error count => simp [counted, Decoded.rest?] at left
      | ok result =>
        simp only [counted, Decoded.rest?, Option.some.injEq] at left
        subst left
        obtain ⟨middle, inner⟩ := getVar_suffix counted
        have less := getVar_length counted
        exact ⟨front ++ middle, by rw [split, inner, List.append_assoc], by omega⟩
    · simp only [if_neg transport] at left
      cases counted : getVar afterType with
      | error count => simp [counted, Decoded.rest?] at left
      | ok result =>
        obtain ⟨len, payload⟩ := result
        obtain ⟨middle, inner⟩ := getVar_suffix counted
        have less := getVar_length counted
        simp only [counted] at left
        by_cases data : ty = 0x0
        · simp only [if_pos data, Decoded.rest?, Option.some.injEq] at left
          subst left
          exact ⟨front ++ middle, by rw [split, inner, List.append_assoc], by omega⟩
        · simp only [if_neg data] at left
          by_cases short : payload.length < len
          · simp [if_pos short, Decoded.rest?] at left
          · rw [if_neg short] at left
            obtain ⟨used, unread, taken, rfl⟩ := decodePayload_rest left
            have whole : payload = used ++ (unread ++ payload.drop len) := by
              rw [← List.append_assoc, ← taken, List.take_append_drop]
            refine ⟨front ++ (middle ++ used), ?_, ?_⟩
            · rw [split, inner]
              nth_rewrite 1 [whole]
              simp only [List.append_assoc]
            · have bound := congrArg List.length whole
              simp only [List.length_append] at bound ⊢
              omega

theorem Frame.decode_below {bytes more : List UInt8} {min : Nat}
    (waiting : Frame.decode bytes = .incomplete min) (below : (bytes ++ more).length < min) :
    ∃ other, Frame.decode (bytes ++ more) = .incomplete other := by
  -- nothing was added since a header was cut short
  have unchanged : min = bytes.length + 1 → ∃ other, Frame.decode (bytes ++ more) = .incomplete other := by
    rintro rfl
    have nothing : more = [] := by
      apply List.eq_nil_of_length_eq_zero
      rw [List.length_append] at below
      omega
    rw [nothing, List.append_nil]
    exact ⟨_, waiting⟩
  unfold Frame.decode at waiting
  cases typed : getVar bytes with
  | error count =>
    simp only [typed, Decoded.incomplete.injEq] at waiting
    exact unchanged waiting.symm
  | ok result =>
    obtain ⟨ty, afterType⟩ := result
    have shorter := getVar_length typed
    simp only [typed] at waiting
    rw [List.length_append] at below
    by_cases transport : ty = 0x41
    · simp only [if_pos transport] at waiting
      cases counted : getVar afterType with
      | error count =>
        simp only [counted, Decoded.incomplete.injEq] at waiting
        have bound := getVar_error counted
        have wide := getVar_length_two typed (by omega)
        omega
      | ok result => simp [counted] at waiting
    · simp only [if_neg transport] at waiting
      cases counted : getVar afterType with
      | error count =>
        simp only [counted, Decoded.incomplete.injEq] at waiting
        exact unchanged waiting.symm
      | ok result =>
        obtain ⟨len, payload⟩ := result
        have less := getVar_length counted
        simp only [counted] at waiting
        by_cases data : ty = 0x0
        · simp [if_pos data] at waiting
        · simp only [if_neg data] at waiting
          by_cases short : payload.length < len
          · simp only [if_pos short, Decoded.incomplete.injEq] at waiting
            have stillShort : (payload ++ more).length < len := by
              rw [List.length_append]
              omega
            refine ⟨2 + len, ?_⟩
            unfold Frame.decode
            rw [getVar_append typed more]
            simp only [if_neg transport, getVar_append counted more, if_neg data, if_pos stillShort]
          · rw [if_neg short] at waiting
            have bound := decodePayload_incomplete waiting
            rw [List.length_take_of_le (Nat.le_of_not_lt short)] at bound
            omega

end ProxyTunnels.Http3
