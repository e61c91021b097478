import Dalph.WorkflowJournal.StoragePayload

/-!
# Event rows

An event is encoded by its schema, split into kind, version and payload, compacted, and compressed
when compression makes the row smaller.  The event schema and the platform's compression are
parameters: only what the codec relies on is assumed of them.
-/

namespace Dalph

open Json

def workflowJournalEventVersion : Int := 15

structure EventSchema (Event : Type) where
  encode : Event → Fields
  decode : Json → Option Event

/-- One normalized journal envelope prepared for immutable persistence. -/
structure EncodedJournalEvent where
  kind : JournalEventKind
  payloadJson : String
  version : Int
deriving DecidableEq

/-- A row that cannot be decoded, named by its kind and version.  The detail is absent where it is
the text of a library error. -/
structure JournalEventDecodeIssue where
  detail : Option String
  kind : JournalEventKind
  version : Int
deriving DecidableEq

def payloadOf (encoded : Fields) : Fields :=
  without (without encoded "_tag") "version"

/-- Strings already met while decoding one batch. -/
structure JournalPayloadStringPool where
  strings : List String

namespace JournalPayloadStringPool

def retain (pool : JournalPayloadStringPool) (value : String) :
    String × JournalPayloadStringPool :=
  match pool.strings.find? (· = value) with
  | some retained => (retained, pool)
  | none => (value, ⟨value :: pool.strings⟩)

mutual

/-- Share the strings of a parsed value, children first. -/
def revive (pool : JournalPayloadStringPool) : Json → Json × JournalPayloadStringPool
  | .str value =>
      let (retained, pool) := pool.retain value
      (.str retained, pool)
  | .arr items =>
      let (items, pool) := pool.reviveItems items
      (.arr items, pool)
  | .obj fields =>
      let (fields, pool) := pool.reviveFields fields
      (.obj fields, pool)
  | value => (value, pool)

def reviveItems (pool : JournalPayloadStringPool) :
    List Json → List Json × JournalPayloadStringPool
  | [] => ([], pool)
  | item :: rest =>
      let (item, pool) := pool.revive item
      let (rest, pool) := pool.reviveItems rest
      (item :: rest, pool)

def reviveFields (pool : JournalPayloadStringPool) : Fields → Fields × JournalPayloadStringPool
  | [] => ([], pool)
  | (key, value) :: rest =>
      let (value, pool) := pool.revive value
      let (rest, pool) := pool.reviveFields rest
      ((key, value) :: rest, pool)

end

def parse (pool : JournalPayloadStringPool) (payloadJson : String) : Option Json :=
  (Json.parse payloadJson).map fun value => (pool.revive value).1

theorem retain_eq (pool : JournalPayloadStringPool) (value : String) :
    (pool.retain value).1 = value := by
  unfold retain
  split
  · rename_i retained found
    simpa using List.find?_some found
  · rfl

mutual

theorem revive_eq (pool : JournalPayloadStringPool) : ∀ value, (pool.revive value).1 = value
  | .str value => by simp [revive, retain_eq]
  | .arr items => by simp [revive, reviveItems_eq pool items]
  | .obj fields => by simp [revive, reviveFields_eq pool fields]
  | .null => by simp [revive]
  | .bool value => by simp [revive]
  | .num value => by simp [revive]

theorem reviveItems_eq (pool : JournalPayloadStringPool) :
    ∀ items, (pool.reviveItems items).1 = items
  | [] => by simp [reviveItems]
  | item :: rest => by simp [reviveItems, revive_eq _ item, reviveItems_eq _ rest]

theorem reviveFields_eq (pool : JournalPayloadStringPool) :
    ∀ fields, (pool.reviveFields fields).1 = fields
  | [] => by simp [reviveFields]
  | (key, value) :: rest => by
      simp [reviveFields, revive_eq _ value, reviveFields_eq _ rest]

end

theorem parse_eq (pool : JournalPayloadStringPool) (payloadJson : String) :
    pool.parse payloadJson = Json.parse payloadJson := by
  simp [parse, revive_eq]

end JournalPayloadStringPool

def legacyCancelledAttemptImplementationEventKind : JournalEventKind :=
  ⟨"CancelledAttemptImplementationResponsibilityRelinquished"⟩

def cancelledAttemptImplementationAbandonedEventKind : JournalEventKind :=
  ⟨"CancelledAttemptImplementationAbandoned"⟩

section Codec

variable {Event : Type} (schema : EventSchema Event)

/-- Encode an event; absent when the schema's output is not a tagged, versioned JSON object. -/
def encodeJournalEvent (event : Event) : Option EncodedJournalEvent :=
  let encoded := schema.encode event
  match encoded.lookup "_tag", encoded.lookup "version",
      Json.parse (stringify (.obj (payloadOf encoded))) with
  | some (.str tag), some (.num version), some (.obj payload) =>
      if tag ≠ "" ∧ 1 ≤ version then
        some ⟨⟨tag⟩, encodeJournalStoragePayload ⟨tag⟩ payload, version⟩
      else none
  | _, _, _ => none

/-- Decode one row into the current semantic event. -/
def decodeJournalEvent (encoded : EncodedJournalEvent)
    (strings : Option JournalPayloadStringPool) : Except JournalEventDecodeIssue Event :=
  if encoded.version ≠ workflowJournalEventVersion then
    .error
      { detail := some ("unsupported journal event version " ++ toString encoded.version ++
          "; supported event format is " ++ toString workflowJournalEventVersion ++
          ". Retire obsolete development data separately only after resolving external custody; " ++
          "no automatic deletion or migration is performed")
        kind := encoded.kind
        version := encoded.version }
  else
    let parsed :=
      match strings with
      | none => Json.parse encoded.payloadJson
      | some strings => strings.parse encoded.payloadJson
    match parsed with
    | some (.obj storedPayload) =>
        match decodeJournalStoragePayload encoded.kind storedPayload with
        | some payload =>
            let normalizedKind :=
              if encoded.kind = legacyCancelledAttemptImplementationEventKind then
                cancelledAttemptImplementationAbandonedEventKind
              else encoded.kind
            let candidate := setField (setField payload "_tag" (.str normalizedKind.value))
              "version" (.num workflowJournalEventVersion)
            match schema.decode (.obj candidate) with
            | some event => .ok event
            | none => .error ⟨none, encoded.kind, encoded.version⟩
        | none => .error ⟨none, encoded.kind, encoded.version⟩
    | _ => .error ⟨none, encoded.kind, encoded.version⟩

end Codec

def kibibyte : Nat := 1024

def maximumDecodedBytes : Nat := kibibyte * kibibyte

def maximumBase64Characters : Nat := (maximumDecodedBytes + kibibyte + 2) / 3 * 4

def gzipPayloadTag : String := "DalphJournalGzipPayloadV1"

/-- Compression, Base64 and digest of the platform. -/
structure GzipPlatform where
  gzipSync : ByteArray → ByteArray
  gunzip : (maxOutputLength : Nat) → ByteArray → Option ByteArray
  toBase64 : ByteArray → String
  fromBase64 : String → ByteArray
  digest : ByteArray → String

def isSha256 (text : String) : Bool :=
  text.length = 64 && text.toList.all (· ∈ "0123456789abcdef".toList)

section Gzip

variable (platform : GzipPlatform)

/-- Compress a payload when the complete envelope is smaller; absent when the envelope would not
satisfy its own schema. -/
def encodeJournalGzipPayload (payloadJson : String) : Option String :=
  let bytes := payloadJson.toUTF8
  if bytes.size < kibibyte ∨ bytes.size > maximumDecodedBytes then some payloadJson
  else
    let data := platform.toBase64 (platform.gzipSync bytes)
    let sha256 := platform.digest bytes
    if data.length ≤ maximumBase64Characters ∧ isSha256 sha256 then
      let envelope := stringify (.obj
        [("_tag", .str gzipPayloadTag), ("codec", .str "gzip"), ("data", .str data),
          ("decodedByteLength", .num bytes.size), ("sha256", .str sha256)])
      some (if envelope.utf8ByteSize < bytes.size then envelope else payloadJson)
    else none

structure GzipEnvelope where
  data : String
  decodedByteLength : Nat
  sha256 : String
deriving DecidableEq

/-- Read a compressed envelope with no other field. -/
def decodeGzipEnvelope (payload : Fields) : Option GzipEnvelope :=
  match payload.lookup "codec", payload.lookup "data", payload.lookup "decodedByteLength",
      payload.lookup "sha256" with
  | some (.str codec), some (.str data), some (.num (.ofNat decodedByteLength)),
      some (.str sha256) =>
      if codec = "gzip" ∧ data.length ≤ maximumBase64Characters ∧ 0 < decodedByteLength ∧
          decodedByteLength ≤ maximumDecodedBytes ∧ isSha256 sha256 ∧
          payload.all (fun field =>
            field.1 ∈ ["_tag", "codec", "data", "decodedByteLength", "sha256"]) then
        some ⟨data, decodedByteLength, sha256⟩
      else none
  | _, _, _, _ => none

/-- Expand a compressed envelope; any other object is the payload itself. -/
def decodeJournalGzipPayload (payload : Fields) : Option Fields :=
  if (field (some (.obj payload)) "_tag").any
      (fun tag => match tag with | .str tag => tag = gzipPayloadTag | _ => false) then do
    let envelope ← decodeGzipEnvelope payload
    let compressed := platform.fromBase64 envelope.data
    if platform.toBase64 compressed ≠ envelope.data then none
    else
      let decoded ← platform.gunzip envelope.decodedByteLength compressed
      if decoded.size ≠ envelope.decodedByteLength ∨ platform.digest decoded ≠ envelope.sha256 then
        none
      else
        let json ← String.fromUTF8? decoded
        match Json.parse json with
        | some (.obj fields) => some fields
        | _ => none
  else some payload

variable {Event : Type} (schema : EventSchema Event)

def encodeSqliteJournalEvent (event : Event) : Option EncodedJournalEvent := do
  let encoded ← encodeJournalEvent schema event
  let payloadJson ← encodeJournalGzipPayload platform encoded.payloadJson
  some { encoded with payloadJson }

def decodeSqliteJournalEvent (encoded : EncodedJournalEvent)
    (strings : Option JournalPayloadStringPool) : Except JournalEventDecodeIssue Event :=
  match Json.parse encoded.payloadJson with
  | some (.obj stored) =>
      match decodeJournalGzipPayload platform stored with
      | some payload =>
          decodeJournalEvent schema { encoded with payloadJson := stringify (.obj payload) } strings
      | none => .error ⟨none, encoded.kind, encoded.version⟩
  | _ => .error ⟨none, encoded.kind, encoded.version⟩

end Gzip

/-- The event schema emits tagged objects of the current version and vocabulary whose payload has
the documented shape, and it decodes what it encoded, reading fields by name. -/
structure EventSchema.Lawful {Event : Type} (schema : EventSchema Event) : Prop where
  distinct : ∀ event, ((schema.encode event).map Prod.fst).Nodup
  encoded : ∀ event, ∃ kind : JournalEventKind,
    (schema.encode event).lookup "_tag" = some (.str kind.value) ∧ kind.value ≠ "" ∧
      kind ≠ legacyCancelledAttemptImplementationEventKind ∧
      EncodedPayload kind (payloadOf (schema.encode event))
  versioned : ∀ event,
    (schema.encode event).lookup "version" = some (.num workflowJournalEventVersion)
  decode_encode : ∀ event value, Equivalent value (.obj (schema.encode event)) →
    schema.decode value = some event

/-- Decompression inverts compression within its output bound, decoding Base64 inverts encoding it,
compression adds at most its fixed overhead, and a digest has its fixed form. -/
structure GzipPlatform.Lawful (platform : GzipPlatform) : Prop where
  gunzip_gzipSync : ∀ bytes maxOutputLength, bytes.size ≤ maxOutputLength →
    platform.gunzip maxOutputLength (platform.gzipSync bytes) = some bytes
  gzipSync_size : ∀ bytes, bytes.size ≤ maximumDecodedBytes →
    (platform.gzipSync bytes).size ≤ maximumDecodedBytes + kibibyte
  fromBase64_toBase64 : ∀ bytes, platform.fromBase64 (platform.toBase64 bytes) = bytes
  toBase64_length : ∀ bytes, (platform.toBase64 bytes).length ≤ (bytes.size + 2) / 3 * 4
  digest_isSha256 : ∀ bytes, isSha256 (platform.digest bytes) = true

theorem fromUTF8_toUTF8 (text : String) : String.fromUTF8? text.toUTF8 = some text := by
  rw [String.toUTF8_eq_toByteArray, String.fromUTF8?, dif_pos text.isValidUTF8]
  rfl

/-- Compression of a stored object is undone on reading. -/
theorem decode_encodeJournalGzipPayload {platform : GzipPlatform} (lawful : platform.Lawful)
    {stored : Fields} (wellFormed : WellFormed (.obj stored))
    (plain : ∀ tag ∈ stored.lookup "_tag", tag = .str compactPayloadTag) :
    ∃ text row, encodeJournalGzipPayload platform (stringify (.obj stored)) = some text ∧
      Json.parse text = some (.obj row) ∧
      decodeJournalGzipPayload platform row = some stored := by
  have untouched : decodeJournalGzipPayload platform stored = some stored := by
    unfold decodeJournalGzipPayload
    rw [if_neg]
    cases tag : stored.lookup "_tag" with
    | none => simp [field, tag]
    | some value => simp [field, tag, plain value tag, compactPayloadTag, gzipPayloadTag]
  let bytes := (stringify (.obj stored)).toUTF8
  by_cases excluded : bytes.size < kibibyte ∨ bytes.size > maximumDecodedBytes
  · exact ⟨_, stored, if_pos excluded, parse_stringify wellFormed, untouched⟩
  have bounded : bytes.size ≤ maximumDecodedBytes := by
    rcases not_or.mp excluded with ⟨_, upper⟩
    exact Nat.le_of_not_lt upper
  have positive : 0 < bytes.size := by
    have lower := (not_or.mp excluded).1
    unfold kibibyte at lower
    omega
  let data := platform.toBase64 (platform.gzipSync bytes)
  have short : data.length ≤ maximumBase64Characters := by
    have compressed := lawful.gzipSync_size bytes bounded
    have coded := lawful.toBase64_length (platform.gzipSync bytes)
    simp only [maximumBase64Characters, maximumDecodedBytes, kibibyte] at compressed ⊢
    show (platform.toBase64 (platform.gzipSync bytes)).length ≤ _
    omega
  let envelope : Fields :=
    [("_tag", .str gzipPayloadTag), ("codec", .str "gzip"), ("data", .str data),
      ("decodedByteLength", .num bytes.size), ("sha256", .str (platform.digest bytes))]
  have encoded : encodeJournalGzipPayload platform (stringify (.obj stored)) =
      some (if (stringify (.obj envelope)).utf8ByteSize < bytes.size then
        stringify (.obj envelope) else stringify (.obj stored)) := by
    unfold encodeJournalGzipPayload
    rw [if_neg excluded, if_pos ⟨short, lawful.digest_isSha256 bytes⟩]
  have opened : decodeGzipEnvelope envelope =
      some ⟨data, bytes.size, platform.digest bytes⟩ := by
    simp [decodeGzipEnvelope, envelope, List.lookup, short, positive, bounded,
      lawful.digest_isSha256 bytes]
  by_cases smaller : (stringify (.obj envelope)).utf8ByteSize < bytes.size
  · refine ⟨stringify (.obj envelope), envelope, by rw [encoded, if_pos smaller],
      parse_stringify ?_, ?_⟩
    · refine .obj (by simp [envelope]) fun field member => ?_
      simp only [envelope, List.mem_cons, List.not_mem_nil, or_false] at member
      rcases member with rfl | rfl | rfl | rfl | rfl <;> constructor
    · unfold decodeJournalGzipPayload
      rw [if_pos (by simp [field, envelope, List.lookup])]
      simp only [opened, Option.bind_eq_bind, Option.bind_some, data, lawful.fromBase64_toBase64,
        lawful.gunzip_gzipSync bytes bytes.size (Nat.le_refl _), ne_eq, not_true_eq_false,
        if_false, or_self, bytes, fromUTF8_toUTF8, parse_stringify wellFormed]
  · exact ⟨stringify (.obj stored), stored, by rw [encoded, if_neg smaller],
      parse_stringify wellFormed, untouched⟩

section Event

variable {Event : Type} {schema : EventSchema Event}

theorem lookup_payloadOf_tag (fields : Fields) : (payloadOf fields).lookup "_tag" = none := by
  rw [payloadOf, lookup_without_of_ne _ (by decide), lookup_without_self]

theorem lookup_payloadOf_version (fields : Fields) :
    (payloadOf fields).lookup "version" = none := by
  rw [payloadOf, lookup_without_self]

section

variable {fields : Fields} {tag version : Json} (distinct : (fields.map Prod.fst).Nodup)
  (tagged : fields.lookup "_tag" = some tag) (versioned : fields.lookup "version" = some version)
include distinct tagged versioned

theorem payloadOf_append_perm :
    (payloadOf fields ++ [("_tag", tag), ("version", version)]).Perm fields := by
  have untagged : ((without fields "_tag").map Prod.fst).Nodup :=
    distinct.sublist (List.filter_sublist.map _)
  have inner : (payloadOf fields ++ [("version", version)]).Perm (without fields "_tag") := by
    apply without_append_perm untagged
    rw [lookup_without_of_ne fields (by decide), versioned]
  have outer := without_append_perm distinct tagged
  calc
    (payloadOf fields ++ [("_tag", tag), ("version", version)]).Perm
        (payloadOf fields ++ [("version", version)] ++ [("_tag", tag)]) := by
      rw [List.append_assoc]
      exact (List.Perm.swap _ _ _).append_left _
    List.Perm _ (without fields "_tag" ++ [("_tag", tag)]) := inner.append_right _
    List.Perm _ fields := outer

theorem candidate_equivalent {restored : Fields}
    (same : Equivalent (.obj restored) (.obj (payloadOf fields))) :
    Equivalent (.obj (setField (setField restored "_tag" tag) "version" version))
      (.obj fields) := by
  have keys := same.keys_perm
  have untagged : "_tag" ∉ restored.map Prod.fst := by
    intro member
    exact lookup_eq_none_iff.mp (lookup_payloadOf_tag fields) (keys.mem_iff.mp member)
  have unversioned : "version" ∉ (restored ++ [("_tag", tag)]).map Prod.fst := by
    rw [List.map_append, List.mem_append]
    rintro (member | member)
    · exact lookup_eq_none_iff.mp (lookup_payloadOf_version fields) (keys.mem_iff.mp member)
    · simp at member
  rw [setField_of_not_mem untagged, setField_of_not_mem unversioned, List.append_assoc]
  exact (same.extend [("_tag", tag), ("version", version)]).trans
    (.order (payloadOf_append_perm distinct tagged versioned))

end

theorem decodeJournalEvent_stored (lawful : schema.Lawful) (event : Event)
    {kind : JournalEventKind} (tagged : (schema.encode event).lookup "_tag" = some (.str kind.value))
    (current : kind ≠ legacyCancelledAttemptImplementationEventKind) {stored restored : Fields}
    (wellFormed : WellFormed (.obj stored))
    (decoded : decodeJournalStoragePayload kind stored = some restored)
    (same : Equivalent (.obj restored) (.obj (payloadOf (schema.encode event))))
    (strings : Option JournalPayloadStringPool) :
    decodeJournalEvent schema ⟨kind, stringify (.obj stored), workflowJournalEventVersion⟩
      strings = .ok event := by
  have parsed : (match strings with
      | none => Json.parse (stringify (.obj stored))
      | some strings => strings.parse (stringify (.obj stored))) = some (.obj stored) := by
    cases strings with
    | none => exact parse_stringify wellFormed
    | some pool => exact (pool.parse_eq _).trans (parse_stringify wellFormed)
  have complete := lawful.decode_encode event _ (candidate_equivalent (lawful.distinct event)
    tagged (lawful.versioned event) same)
  unfold decodeJournalEvent
  rw [if_neg (by simp)]
  simp only [parsed, decoded, if_neg current, complete]

theorem exists_sqliteRow {platform : GzipPlatform} (gzip : platform.Lawful)
    (lawful : schema.Lawful) (event : Event) :
    ∃ encoded, encodeSqliteJournalEvent platform schema event = some encoded ∧
      ∀ strings, decodeSqliteJournalEvent platform schema encoded strings = .ok event := by
  obtain ⟨kind, tagged, named, current, payload⟩ := lawful.encoded event
  obtain ⟨stored, restored, text, wellFormed, plain, decoded, same⟩ := payload.exists_stored
  obtain ⟨row, fields, compressed, parsed, expanded⟩ :=
    decode_encodeJournalGzipPayload gzip wellFormed plain
  have encoded : encodeJournalEvent schema event =
      some ⟨kind, stringify (.obj stored), workflowJournalEventVersion⟩ := by
    unfold encodeJournalEvent
    simp only [tagged, lawful.versioned event, parse_stringify payload.encoded.wellFormed]
    rw [if_pos ⟨named, by decide⟩, text]
  refine ⟨⟨kind, row, workflowJournalEventVersion⟩, ?_, fun strings => ?_⟩
  · simp [encodeSqliteJournalEvent, encoded, compressed]
  · simp only [decodeSqliteJournalEvent, parsed, expanded]
    exact decodeJournalEvent_stored lawful event tagged current wellFormed decoded same strings

/-- Every payload survives storage up to key order, and every event survives its SQLite row. -/
theorem decode_encodeSqliteJournalEvent {platform : GzipPlatform} (gzip : platform.Lawful)
    (lawful : schema.Lawful) :
    (∀ (kind : JournalEventKind) (payload : Fields), EncodedPayload kind payload →
      ∃ stored restored,
        Json.parse (encodeJournalStoragePayload kind payload) = some (.obj stored) ∧
        decodeJournalStoragePayload kind stored = some restored ∧
        Equivalent (.obj restored) (.obj payload)) ∧
    ∀ (event : Event) (strings : Option JournalPayloadStringPool),
      ∃ encoded, encodeSqliteJournalEvent platform schema event = some encoded ∧
        decodeSqliteJournalEvent platform schema encoded strings = .ok event := by
  refine ⟨fun kind payload encoded => encoded.decode_encode, fun event strings => ?_⟩
  obtain ⟨encoded, row, decoded⟩ := exists_sqliteRow gzip lawful event
  exact ⟨encoded, row, decoded strings⟩

end Event

namespace DeletedClaimRow

def plan : Json :=
  .obj [("attemptId", .str "attempt-1"), ("taskId", .str "task-1")]

def claim : Json :=
  .obj [("_tag", .str "CompletionTaskClaim"), ("plannedAttempt", plan),
    ("promotionCorrelation", .obj [("qualifiedCandidate", .obj [("run", .obj [("session",
      .obj [("plannedAttempt", plan)])])])])]

def encoded : Fields :=
  [("_tag", .str "CompletionClaimDeleted"), ("claim", claim), ("operationId", .str "deletion-1"),
    ("successObservation", .obj [("claim", claim)]), ("version", .num workflowJournalEventVersion)]

def schema : EventSchema Unit where
  encode _ := encoded
  decode value := if value.keys.isPerm (encoded.map Prod.fst) then some () else none

def platform : GzipPlatform where
  gzipSync bytes := bytes
  gunzip maxOutputLength bytes := if bytes.size ≤ maxOutputLength then some bytes else none
  toBase64 bytes := String.ofList (bytes.data.toList.map fun byte => Char.ofNat byte.toNat)
  fromBase64 text := ⟨(text.toList.map fun char => UInt8.ofNat char.toNat).toArray⟩
  digest _ := String.ofList (List.replicate 64 '0')

theorem plan_encoded : EncodedValue plan := by
  refine .obj (by decide) (by decide) fun field member => ?_
  rcases List.mem_pair.mp member with rfl | rfl <;> constructor

theorem singleton_encoded {key : String} {value : Json} (untagged : key ≠ "_tag")
    (encoded : EncodedValue value) : EncodedValue (.obj [(key, value)]) := by
  refine .obj (by simp) (fun claim => ?_) fun field member => ?_
  · rw [isCompletionTaskClaim_of_untagged] at claim
    · cases claim
    · simp [List.lookup, beq_false_of_ne (Ne.symm untagged)]
  · rw [List.mem_singleton.mp member]
    exact encoded

theorem claim_encoded : EncodedValue claim := by
  refine .obj (by decide) (fun _ => by simp [List.lookup]) fun field member => ?_
  simp only [List.mem_cons, List.not_mem_nil, or_false] at member
  rcases member with rfl | rfl | rfl
  · constructor
  · exact plan_encoded
  · apply singleton_encoded (by decide)
    apply singleton_encoded (by decide)
    apply singleton_encoded (by decide)
    exact singleton_encoded (by decide) plan_encoded

theorem schema_lawful : schema.Lawful where
  distinct _ := show (encoded.map Prod.fst).Nodup by decide
  versioned _ := rfl
  encoded _ := by
    refine ⟨⟨"CompletionClaimDeleted"⟩, rfl, by decide, by decide, ?_, rfl, ?_, ?_⟩
    · refine .obj (show ((payloadOf encoded).map Prod.fst).Nodup by decide)
        (fun claim => by cases claim) fun field member => ?_
      have listed : field ∈ [("claim", claim), ("operationId", .str "deletion-1"),
          ("successObservation", .obj [("claim", claim)])] := member
      simp only [List.mem_cons, List.not_mem_nil, or_false] at listed
      rcases listed with rfl | rfl | rfl
      · exact claim_encoded
      · constructor
      · exact singleton_encoded (by decide) claim_encoded
    · intro _ missing
      cases missing
    · intro kind
      exact absurd kind (by decide)
  decode_encode _ value same := by
    have permuted : value.keys.isPerm (encoded.map Prod.fst) = true :=
      List.isPerm_iff.mpr same.keys_perm
    exact if_pos permuted

theorem platform_lawful : platform.Lawful where
  gunzip_gzipSync _ _ bounded := if_pos bounded
  gzipSync_size bytes bounded := by
    unfold kibibyte
    exact Nat.le_add_right_of_le bounded
  fromBase64_toBase64 bytes := by
    have byte : ∀ byte : UInt8, UInt8.ofNat (Char.ofNat byte.toNat).toNat = byte := by
      intro byte
      have valid : byte.toNat.isValidChar := by
        have bounded := byte.toNat_lt
        exact Or.inl (by omega)
      have code : (Char.ofNat byte.toNat).toNat = byte.toNat := by
        unfold Char.ofNat
        rw [dif_pos valid]
        rfl
      rw [code, UInt8.ofNat_toNat]
    simp [platform, Function.comp_def, byte]
  toBase64_length bytes := by
    simp only [platform, String.length_ofList, List.length_map, Array.length_toList]
    show bytes.size ≤ _
    omega
  digest_isSha256 _ := show isSha256 (String.ofList (List.replicate 64 '0')) = true by decide

/-- Both copies of the plan and the claim are left out of this row and restored from it. -/
theorem decode_encode_deletedClaim :
    ∃ row, encodeSqliteJournalEvent platform schema () = some row ∧
      decodeSqliteJournalEvent platform schema row none = .ok () :=
  (decode_encodeSqliteJournalEvent platform_lawful schema_lawful).2 () none

end DeletedClaimRow

end Dalph
