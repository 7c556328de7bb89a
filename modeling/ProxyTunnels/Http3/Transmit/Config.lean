import Mathlib.Data.List.Nodup
import ProxyTunnels.Http3.Transmit.WriteBuf

/-! The settings of a connection, on their way to the peer.

A configuration becomes the settings table of the control stream's first frame, and the
peer reads its own view of the settings from that table. With every number in range the
frame fits the write buffer, and the peer's view is the configuration.
-/

set_option autoImplicit false

namespace ProxyTunnels.Http3

/-- `config::Settings`. -/
structure ConnectionSettings where
  maxFieldSectionSize : Nat
  enableWebtransport : Bool
  enableExtendedConnect : Bool
  enableDatagram : Bool
  maxWebtransportSessions : Nat
  deriving DecidableEq, Repr

/-- `Default for config::Settings`. -/
def ConnectionSettings.default : ConnectionSettings := ⟨2 ^ 62 - 1, false, false, false, 0⟩

structure Config where
  sendGrease : Bool
  settings : ConnectionSettings
  deriving DecidableEq, Repr

theorem insertSetting_ok_iff {entries next : List (Nat × Nat)} {id value : Nat} :
    insertSetting entries id value = .ok next ↔
      entries.length < 8 ∧ id ∉ entries.map Prod.fst ∧ next = entries ++ [(id, value)] := by
  have listed : entries.any (fun entry => entry.1 == id) = true ↔ id ∈ entries.map Prod.fst := by
    rw [List.any_eq_true, List.mem_map]
    simp only [beq_iff_eq]
  unfold insertSetting
  by_cases full : 8 ≤ entries.length
  · rw [if_pos full]
    exact ⟨fun failed => (by cases failed), fun held => absurd held.1 (by omega)⟩
  · rw [if_neg full]
    by_cases known : id ∈ entries.map Prod.fst
    · rw [if_pos (listed.mpr known)]
      exact ⟨fun failed => (by cases failed), fun held => absurd known held.2.1⟩
    · rw [if_neg (fun found => known (listed.mp found)), Except.ok.injEq]
      exact ⟨fun same => ⟨by omega, known, same.symm⟩, fun held => held.2.2.symm⟩

theorem distinct_concat {entries : List (Nat × Nat)} {id : Nat} (value : Nat)
    (distinct : (entries.map Prod.fst).Nodup) (fresh : id ∉ entries.map Prod.fst) :
    ((entries ++ [(id, value)]).map Prod.fst).Nodup := by
  rw [List.map_append, List.map_singleton, ← List.concat_eq_append]
  exact List.Nodup.concat fresh distinct

def Settings.insert (table : Settings) (id value : Nat) : Except SettingsError Settings :=
  match inserted : insertSetting table.entries id value with
  | .error error => .error error
  | .ok entries =>
    have held := insertSetting_ok_iff.mp inserted
    .ok ⟨entries, by rw [held.2.2, List.length_append]; exact held.1,
      by rw [held.2.2]; exact distinct_concat value table.distinct held.2.1⟩

/-- `frame::Settings::get`, which also looks at the slots that were never filled. -/
def getSetting (entries : List (Nat × Nat)) (id : Nat) : Option Nat :=
  ((entries ++ List.replicate (8 - entries.length) (0, 0)).find? fun (entry : Nat × Nat) => id == entry.1).map Prod.snd

/-- `From<&frame::Settings> for config::Settings`. -/
def ConnectionSettings.ofEntries (entries : List (Nat × Nat)) : ConnectionSettings where
  maxFieldSectionSize := (getSetting entries 0x6).getD ConnectionSettings.default.maxFieldSectionSize
  enableWebtransport :=
    ((getSetting entries 0x2b603742).map (· != 0)).getD ConnectionSettings.default.enableWebtransport
  maxWebtransportSessions := (getSetting entries 0x2b603743).getD ConnectionSettings.default.maxWebtransportSessions
  enableDatagram := ((getSetting entries 0x33).map (· != 0)).getD ConnectionSettings.default.enableDatagram
  enableExtendedConnect := ((getSetting entries 0x8).map (· != 0)).getD ConnectionSettings.default.enableExtendedConnect

def Settings.empty : Settings := ⟨[], Nat.zero_le _, List.nodup_nil⟩

/-- The reserved setting of a configuration; `draw` is the number drawn for it. That it does
not go in is ignored. -/
def Config.greased (config : Config) (draw : Nat) : Settings :=
  if config.sendGrease then
    match Settings.empty.insert (greaseId draw) 0 with
    | .ok table => table
    | .error _ => Settings.empty
  else Settings.empty

/-- `TryFrom<Config> for frame::Settings`. -/
def Config.toSettings (config : Config) (draw : Nat) : Except SettingsError Settings := do
  let table ← (config.greased draw).insert 0x6 config.settings.maxFieldSectionSize
  let table ← table.insert 0x8 config.settings.enableExtendedConnect.toNat
  let table ← table.insert 0x2b603742 config.settings.enableWebtransport.toNat
  let table ← table.insert 0x33 config.settings.enableDatagram.toNat
  table.insert 0x2b603743 config.settings.maxWebtransportSessions

inductive UniStreamHeader where
  | control (table : Settings)
  | webTransportUni (session : Nat)
  | encoder
  | decoder
  deriving DecidableEq, Repr

def UniStreamHeader.encode : UniStreamHeader → Option (List UInt8)
  | .control table => do
      let ty ← writeVar 0x00
      let table ← table.encode
      return ty ++ table
  | .webTransportUni session => do
      let ty ← writeVar 0x54
      let session ← writeVar session
      return ty ++ session
  | .encoder => writeVar 0x02
  | .decoder => writeVar 0x03

/-- `From<UniStreamHeader> for WriteBuf<B>`. -/
def WriteBuf.ofUniStreamHeader (header : UniStreamHeader) : Option WriteBuf := WriteBuf.new header.encode none

section Exchange
variable {config : Config} {draw : Nat}

theorem Settings.insert_ok {table : Settings} {id : Nat} (value : Nat) (room : table.entries.length < 8)
    (fresh : id ∉ table.entries.map Prod.fst) :
    ∃ next : Settings, table.insert id value = .ok next ∧ next.entries = table.entries ++ [(id, value)] := by
  have inserted : insertSetting table.entries id value = .ok (table.entries ++ [(id, value)]) :=
    insertSetting_ok_iff.mpr ⟨room, fresh, rfl⟩
  unfold Settings.insert
  split
  case h_1 failed =>
    rw [inserted] at failed
    cases failed
  case h_2 entries same =>
    rw [inserted, Except.ok.injEq] at same
    exact ⟨_, rfl, same.symm⟩

theorem Settings.insert_all {table : Settings} {entries : List (Nat × Nat)}
    (few : table.entries.length + entries.length ≤ 8)
    (distinct : ((table.entries ++ entries).map Prod.fst).Nodup) :
    ∃ last : Settings, entries.foldlM (fun table entry => table.insert entry.1 entry.2) table = .ok last ∧
      last.entries = table.entries ++ entries := by
  induction entries generalizing table with
  | nil => exact ⟨table, rfl, (List.append_nil _).symm⟩
  | cons entry entries ih =>
    rw [List.length_cons] at few
    have fresh : entry.1 ∉ table.entries.map Prod.fst := by
      intro listed
      rw [List.map_append, List.nodup_append] at distinct
      exact distinct.2.2 _ listed _ List.mem_cons_self rfl
    obtain ⟨next, inserted, grown⟩ := table.insert_ok entry.2 (by omega) fresh
    have moved : next.entries ++ entries = table.entries ++ entry :: entries := by
      rw [grown, List.append_assoc, List.singleton_append]
    obtain ⟨last, others, whole⟩ := ih
      (by rw [grown, List.length_append, List.length_singleton]; omega) (moved ▸ distinct)
    exact ⟨last, by rw [List.foldlM_cons, inserted]; exact others, whole.trans moved⟩

def ConnectionSettings.entries (settings : ConnectionSettings) : List (Nat × Nat) :=
  [(0x6, settings.maxFieldSectionSize), (0x8, settings.enableExtendedConnect.toNat),
    (0x2b603742, settings.enableWebtransport.toNat), (0x33, settings.enableDatagram.toNat),
    (0x2b603743, settings.maxWebtransportSessions)]

theorem ConnectionSettings.entries_supported (settings : ConnectionSettings) :
    ∀ entry ∈ settings.entries, settingSupported entry.1 = true := by
  simp only [ConnectionSettings.entries, List.forall_mem_cons]
  exact ⟨rfl, rfl, rfl, rfl, rfl, fun _ nothing => absurd nothing List.not_mem_nil⟩

def Config.reserved (config : Config) (draw : Nat) : List (Nat × Nat) :=
  if config.sendGrease then [(greaseId draw, 0)] else []

theorem grease_unknown (draw : Nat) :
    settingSupported (greaseId draw) = false ∧ settingForbidden (greaseId draw) = false := by
  simp only [settingSupported, settingForbidden, greaseId, List.mem_cons, List.not_mem_nil, or_false,
    decide_eq_false_iff_not, not_or]
  omega

theorem Config.greased_entries (config : Config) (draw : Nat) :
    (config.greased draw).entries = config.reserved draw := by
  unfold Config.greased Config.reserved
  cases config.sendGrease with
  | false => rfl
  | true =>
    obtain ⟨table, inserted, entries⟩ := Settings.empty.insert_ok 0 (by decide) (@List.not_mem_nil _ (greaseId draw))
    simp only [if_true, inserted]
    exact entries

theorem Config.toSettings_ok (config : Config) (draw : Nat) :
    ∃ table : Settings, config.toSettings draw = .ok table ∧
      table.entries = config.reserved draw ++ config.settings.entries := by
  have folded : config.toSettings draw = config.settings.entries.foldlM
      (fun (table : Settings) entry => table.insert entry.1 entry.2) (config.greased draw) := by
    simp only [ConnectionSettings.entries, List.foldlM_cons, List.foldlM_nil, bind_pure]
    rfl
  rw [folded, ← config.greased_entries draw]
  apply Settings.insert_all
  · rw [config.greased_entries, Config.reserved]
    split <;> simp [ConnectionSettings.entries]
  · rw [config.greased_entries, Config.reserved, List.map_append, List.nodup_append]
    refine ⟨?_, (by decide : [0x6, 0x8, 0x2b603742, 0x33, 0x2b603743].Nodup), ?_⟩
    · split <;> simp
    · rintro id reserved other listed rfl
      obtain ⟨entry, member, rfl⟩ := List.mem_map.mp listed
      split at reserved
      · rw [List.map_singleton, List.mem_singleton] at reserved
        have supported := config.settings.entries_supported entry member
        rw [reserved, (grease_unknown draw).1] at supported
        cases supported
      · cases reserved

theorem Config.filter_entries (config : Config) (draw : Nat) :
    (config.reserved draw ++ config.settings.entries).filter (fun entry => settingSupported entry.1) =
      config.settings.entries := by
  rw [List.filter_append, List.filter_eq_self.mpr config.settings.entries_supported, Config.reserved]
  split
  · rw [List.filter_cons_of_neg (by rw [(grease_unknown draw).1]; exact Bool.false_ne_true)]
    rfl
  · rfl

theorem ConnectionSettings.ofEntries_entries (settings : ConnectionSettings) :
    ConnectionSettings.ofEntries settings.entries = settings := by
  obtain ⟨size, webtransport, connect, datagram, sessions⟩ := settings
  cases webtransport <;> cases connect <;> cases datagram <;> rfl

theorem settingsLen_cons (id value : VarInt) {entries : List (Nat × Nat)} {len : Nat}
    (rest : settingsLen entries = some len) :
    settingsLen ((id.value, value.value) :: entries) = some (id.size + value.size + len) := by
  simp only [settingsLen, fromU64_of_lt id.small, fromU64_of_lt value.small, rest]
  rfl

def ConnectionSettings.InRange (settings : ConnectionSettings) : Prop :=
  settings.maxFieldSectionSize < 2 ^ 62 ∧ settings.maxWebtransportSessions < 2 ^ 62

def VarInt.ofBool (flag : Bool) : VarInt := ⟨flag.toNat, by cases flag <;> decide⟩

theorem VarInt.size_ofBool (flag : Bool) : (VarInt.ofBool flag).size = 1 := by
  cases flag <;> rfl

theorem ConnectionSettings.settingsLen_entries {settings : ConnectionSettings} (inRange : settings.InRange) :
    ∃ len ≤ 30, settingsLen settings.entries = some len := by
  have sessions := settingsLen_cons ⟨0x2b603743, by decide⟩ ⟨_, inRange.2⟩ (show settingsLen [] = some 0 from rfl)
  have datagram := settingsLen_cons ⟨0x33, by decide⟩ (.ofBool settings.enableDatagram) sessions
  have webtransport := settingsLen_cons ⟨0x2b603742, by decide⟩ (.ofBool settings.enableWebtransport) datagram
  have connect := settingsLen_cons ⟨0x8, by decide⟩ (.ofBool settings.enableExtendedConnect) webtransport
  refine ⟨_, ?_, settingsLen_cons ⟨0x6, by decide⟩ ⟨_, inRange.1⟩ connect⟩
  have sectionSize := VarInt.size_le ⟨_, inRange.1⟩
  have sessionsSize := VarInt.size_le ⟨_, inRange.2⟩
  have sectionId : ∀ small, (VarInt.mk 0x6 small).size = 1 := fun _ => rfl
  have connectId : ∀ small, (VarInt.mk 0x8 small).size = 1 := fun _ => rfl
  have datagramId : ∀ small, (VarInt.mk 0x33 small).size = 1 := fun _ => rfl
  have webtransportId : ∀ small, (VarInt.mk 0x2b603742 small).size = 4 := fun _ => rfl
  have sessionsId : ∀ small, (VarInt.mk 0x2b603743 small).size = 4 := fun _ => rfl
  simp only [VarInt.size_ofBool, sectionId, connectId, datagramId, webtransportId, sessionsId]
  omega

theorem greaseId_small (drawn : draw < greaseDraws) : greaseId draw < 2 ^ 62 := by
  simp only [greaseDraws, greaseId] at drawn ⊢
  omega

theorem Config.settingsLen_all (inRange : config.settings.InRange) (drawn : draw < greaseDraws) :
    ∃ len ≤ 39, settingsLen (config.reserved draw ++ config.settings.entries) = some len := by
  obtain ⟨len, few, counted⟩ := ConnectionSettings.settingsLen_entries inRange
  unfold Config.reserved
  split
  · refine ⟨_, ?_, settingsLen_cons ⟨greaseId draw, greaseId_small drawn⟩ ⟨0, by decide⟩ counted⟩
    have size := VarInt.size_le ⟨greaseId draw, greaseId_small drawn⟩
    have zero : ∀ small, (VarInt.mk 0 small).size = 1 := fun _ => rfl
    rw [zero]
    omega
  · exact ⟨len, by omega, counted⟩

theorem Config.writable_all (inRange : config.settings.InRange) (drawn : draw < greaseDraws) :
    Writable (config.reserved draw ++ config.settings.entries) := by
  have flag : ∀ set : Bool, set.toNat < 2 ^ 62 := fun set => (VarInt.ofBool set).small
  have known : Writable config.settings.entries := by
    simp only [Writable, ConnectionSettings.entries, List.forall_mem_cons]
    refine ⟨⟨by decide, inRange.1⟩, ⟨by decide, flag _⟩, ⟨by decide, flag _⟩, ⟨by decide, flag _⟩,
      ⟨by decide, inRange.2⟩, ?_⟩
    exact fun _ nothing => absurd nothing List.not_mem_nil
  intro entry member
  rcases List.mem_append.mp member with reserved | listed
  · unfold Config.reserved at reserved
    split at reserved
    · cases List.mem_singleton.mp reserved
      exact ⟨greaseId_small drawn, Nat.two_pow_pos 62⟩
    · cases reserved
  · exact known entry listed

theorem Config.allowed_all : ∀ entry ∈ config.reserved draw ++ config.settings.entries,
    settingForbidden entry.1 = false := by
  intro entry member
  rcases List.mem_append.mp member with reserved | listed
  · unfold Config.reserved at reserved
    split at reserved
    · cases List.mem_singleton.mp reserved
      exact (grease_unknown draw).2
    · cases reserved
  · simp only [ConnectionSettings.entries, List.mem_cons, List.not_mem_nil, or_false] at listed
    rcases listed with rfl | rfl | rfl | rfl | rfl <;> rfl

/-- What a configuration sends on its control stream fits the write buffer, and a peer that
reads the stream's type and first frame has the configuration's settings from it. -/
theorem Config.exchanged (inRange : config.settings.InRange) (drawn : draw < greaseDraws) :
    ∃ table data, config.toSettings draw = .ok table ∧
      WriteBuf.ofUniStreamHeader (.control table) = some data ∧
      ∀ rest, ∃ frame entries, getVar (data.unsent ++ rest) = .ok (0x00, frame) ∧
        Frame.decode frame = .frame (.settings entries) rest ∧
        ConnectionSettings.ofEntries entries = config.settings := by
  obtain ⟨table, made, entries⟩ := config.toSettings_ok draw
  obtain ⟨len, few, counted⟩ := Config.settingsLen_all inRange drawn
  rw [← entries] at counted
  obtain ⟨bytes, written, bound, read⟩ := table.encode_wire (entries ▸ Config.writable_all inRange drawn)
    (entries ▸ Config.allowed_all)
  have header : (UniStreamHeader.control table).encode = some (VarInt.encode ⟨0x00, by decide⟩ ++ bytes) := by
    simp only [UniStreamHeader.encode, writeVar_of_lt (show 0x00 < 2 ^ 62 by decide), written]
    rfl
  have fits : (VarInt.encode ⟨0x00, by decide⟩ ++ bytes).length ≤ writeBufEncodeSize := by
    have tySize := VarInt.size_le ⟨0x00, by decide⟩
    have most := bound len counted
    rw [List.length_append, VarInt.length_encode, writeBufEncodeSize]
    omega
  refine ⟨table, ⟨_, 0, none, fits, Nat.zero_le _⟩, made, ?_, ?_⟩
  · simp only [WriteBuf.ofUniStreamHeader, WriteBuf.new, header]
    exact dif_pos fits
  · intro rest
    refine ⟨bytes ++ rest, config.settings.entries, ?_, ?_, config.settings.ofEntries_entries⟩
    · rw [WriteBuf.unsent, List.drop_zero, Option.getD_none, List.append_nil, List.append_assoc, VarInt.getVar_encode]
    · rw [read, entries, config.filter_entries]

theorem Config.exchanged_default :
    ∃ table data, Config.toSettings ⟨true, ⟨16384, false, false, false, 0⟩⟩ 7 = .ok table ∧
      WriteBuf.ofUniStreamHeader (.control table) = some data ∧
      ∀ rest, ∃ frame entries, getVar (data.unsent ++ rest) = .ok (0x00, frame) ∧
        Frame.decode frame = .frame (.settings entries) rest ∧
        ConnectionSettings.ofEntries entries = ⟨16384, false, false, false, 0⟩ := by
  have inRange : ConnectionSettings.InRange ⟨16384, false, false, false, 0⟩ := ⟨by decide, by decide⟩
  exact @Config.exchanged ⟨true, _⟩ 7 inRange (by decide)

end Exchange

end ProxyTunnels.Http3
