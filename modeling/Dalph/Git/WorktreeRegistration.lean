import Dalph.Foundation.Loop

/-!
# Registered worktrees

Git lists its worktrees as records of fields that end in NUL, and one more NUL ends a record.  The
decoder cuts the text at adjacent NULs and assigns the fields to an object, where a field named
`__proto__` leaves no property.
-/

namespace Dalph

def nul : Char := Char.ofNat 0

/-- What the fields of a registration are checked against. -/
structure WorktreeSchemas where
  worktreeLocator : String → Bool
  gitCommitSha : String → Bool
  taskBranchRef : String → Bool
  /-- Text of the error for fields that are no registration. -/
  failure : List (String × String) → String

structure WorktreeRegistration where
  worktree : String
  HEAD : Option String
  branch : Option String
  bare : Option String
  detached : Option String
  locked : Option String
deriving DecidableEq

/-- A field, with the value behind its first space. -/
structure WorktreeField where
  name : String
  value : Option String
deriving DecidableEq

def splitPairs (separator : Char) : List Char → List (List Char)
  | first :: second :: rest =>
      if first = separator ∧ second = separator then [] :: splitPairs separator rest
      else (splitPairs separator (second :: rest)).modifyHead (first :: ·)
  | text => [text]

def worktreeField (text : List Char) : WorktreeField where
  name := String.ofList (text.takeWhile (· ≠ ' '))
  value :=
    match text.dropWhile (· ≠ ' ') with
    | [] => none
    | _ :: value => some (String.ofList value)

def WorktreeField.property (field : WorktreeField) : String × String :=
  (field.name, field.value.getD "")

def assignField (fields : List (String × String)) (field : WorktreeField) :
    List (String × String) :=
  if field.name = "__proto__" then fields else fields ++ [field.property]

def collectFields : List (String × String) → List (List Char) →
    Except String (List (String × String))
  | fields, [] => .ok fields
  | fields, text :: rest =>
      let field := worktreeField text
      if field.name ∈ fields.map Prod.fst then .error s!"duplicate worktree field: {field.name}"
      else collectFields (assignField fields field) rest

def WorktreeSchemas.accepts (schemas : WorktreeSchemas) (name value : String) : Bool :=
  match name with
  | "worktree" => schemas.worktreeLocator value
  | "HEAD" => schemas.gitCommitSha value
  | "branch" => schemas.taskBranchRef value
  | "bare" => value = ""
  | "detached" => value = ""
  | "locked" => true
  | _ => false

/-- The registration that an object of fields stands for. -/
def registrationOf (fields : List (String × String)) (worktree : String) :
    WorktreeRegistration where
  worktree
  HEAD := fields.lookup "HEAD"
  branch := fields.lookup "branch"
  bare := fields.lookup "bare"
  detached := fields.lookup "detached"
  locked := fields.lookup "locked"

def decodeRegistration (schemas : WorktreeSchemas) (fields : List (String × String)) :
    Except String WorktreeRegistration :=
  match fields.lookup "worktree", fields.all fun field => schemas.accepts field.1 field.2 with
  | some worktree, true => .ok (registrationOf fields worktree)
  | _, _ => .error s!"invalid worktree registration: {schemas.failure fields}"

def provesCheckoutMode (registration : WorktreeRegistration) : Bool :=
  let modes :=
    [registration.bare, registration.detached, registration.branch].filter (·.isSome)
  !(modes.length ≠ 1 || registration.bare.isNone && registration.HEAD.isNone)

def decodeRecord (schemas : WorktreeSchemas) (record : List Char) :
    Except String WorktreeRegistration := do
  let fields ← collectFields [] (record.splitOn nul)
  let registration ← decodeRegistration schemas fields
  if provesCheckoutMode registration then .ok registration
  else .error "worktree registration does not prove one supported checkout mode"

def decodeRecords (schemas : WorktreeSchemas) : List String → List WorktreeRegistration →
    List (List Char) → Except String (List WorktreeRegistration)
  | _, registrations, [] => .ok registrations
  | paths, registrations, record :: rest =>
      match decodeRecord schemas record with
      | .error detail => .error detail
      | .ok registration =>
          if registration.worktree ∈ paths then
            .error s!"duplicate worktree path: {registration.worktree}"
          else
            decodeRecords schemas (registration.worktree :: paths) (registrations ++ [registration])
              rest

def decodeGitWorktreeRegistrations (schemas : WorktreeSchemas) (output : String) :
    Except String (List WorktreeRegistration) :=
  let text := output.toList
  if [nul, nul] <:+ text then
    decodeRecords schemas [] [] (splitPairs nul (text.take (text.length - 2)))
  else .error "worktree inventory has no complete terminal separator"

section Splitting

variable {separator first : Char} {text field : List Char} {fields : List (List Char)}

theorem splitPairs_cons_of_ne (apart : first ≠ separator) :
    splitPairs separator (first :: text) = (splitPairs separator text).modifyHead (first :: ·) := by
  cases text with
  | nil => rfl
  | cons second rest => simp [splitPairs, apart]

theorem splitPairs_pair :
    splitPairs separator (separator :: separator :: text) = [] :: splitPairs separator text := by
  simp [splitPairs]

theorem splitPairs_separator_cons (apart : first ≠ separator) :
    splitPairs separator (separator :: first :: text) =
      (splitPairs separator (first :: text)).modifyHead (separator :: ·) := by
  simp [splitPairs, apart]

theorem splitPairs_append (absent : separator ∉ field) :
    splitPairs separator (field ++ text) = (splitPairs separator text).modifyHead (field ++ ·) := by
  induction field with
  | nil =>
      rw [List.nil_append]
      cases splitPairs separator text <;> rfl
  | cons char field induction =>
      rw [List.mem_cons, not_or] at absent
      rw [List.cons_append, splitPairs_cons_of_ne (Ne.symm absent.1), induction absent.2,
        List.modifyHead_modifyHead]
      rfl

theorem splitPairs_fields (nonempty : fields ≠ [])
    (plain : ∀ field ∈ fields, field ≠ [] ∧ separator ∉ field) :
    splitPairs separator ([separator].intercalate fields ++ text) =
      (splitPairs separator text).modifyHead ([separator].intercalate fields ++ ·) := by
  induction fields with
  | nil => contradiction
  | cons field fields induction =>
      obtain ⟨first, others⟩ := List.forall_mem_cons.mp plain
      cases fields with
      | nil => rw [List.intercalate_singleton, splitPairs_append first.2]
      | cons next fields =>
          obtain ⟨char, rest, shown⟩ := List.exists_cons_of_ne_nil (others next (by simp)).1
          have apart : char ≠ separator := fun same =>
            (others next (by simp)).2 (by simp [shown, same])
          obtain ⟨tail, headed⟩ : ∃ tail, [separator].intercalate (next :: fields) =
            char :: tail := by
            rw [shown]
            exact ⟨_, List.intercalate_cons_cons_left⟩
          have later := induction (by simp) others
          rw [headed] at later
          rw [List.intercalate_cons_cons, headed, List.append_assoc, List.append_assoc,
            splitPairs_append first.2, List.singleton_append, List.cons_append,
            splitPairs_separator_cons apart, ← List.cons_append, later]
          simp only [List.modifyHead_modifyHead]
          congr 1
          funext piece
          simp

theorem splitPairs_ne_nil : splitPairs separator text ≠ [] := by
  induction text using splitPairs.induct separator with
  | case1 first second rest pair induction => simp [splitPairs, pair]
  | case2 first second rest apart induction =>
      rw [splitPairs, if_neg apart]
      simpa using induction
  | case3 text short => simp [splitPairs]

theorem flatMap_splitPairs :
    (splitPairs separator text).flatMap (· ++ [separator, separator]) =
      text ++ [separator, separator] := by
  induction text using splitPairs.induct separator with
  | case1 first second rest pair induction =>
      obtain ⟨rfl, rfl⟩ := pair
      rw [splitPairs_pair, List.flatMap_cons, induction]
      rfl
  | case2 first second rest apart induction =>
      rw [splitPairs, if_neg apart]
      obtain ⟨piece, pieces, shown⟩ :=
        List.exists_cons_of_ne_nil (@splitPairs_ne_nil separator (second :: rest))
      rw [shown, List.flatMap_cons] at induction
      rw [shown, List.modifyHead_cons, List.flatMap_cons, List.cons_append, List.cons_append,
        induction]
      rfl
  | case3 text short => simp [splitPairs]

theorem flatMap_terminated {ending : List Char} (nonempty : fields ≠ []) :
    fields.flatMap (· ++ ending) = ending.intercalate fields ++ ending := by
  induction fields with
  | nil => contradiction
  | cons field fields induction =>
      cases fields with
      | nil => simp
      | cons next fields =>
          rw [List.flatMap_cons, induction (by simp), List.intercalate_cons_cons]
          simp

theorem not_mem_of_mem_splitOn (member : field ∈ text.splitOn separator) : separator ∉ field := by
  induction text generalizing field with
  | nil =>
      obtain rfl := List.mem_singleton.mp member
      exact List.not_mem_nil
  | cons char text induction =>
      rw [List.splitOn_cons_eq_if_modifyHead] at member
      obtain ⟨piece, pieces, shown⟩ := List.exists_cons_of_ne_nil (text.splitOn_ne_nil separator)
      rw [shown] at induction member
      split at member
      · obtain rfl | later := List.mem_cons.mp member
        · exact List.not_mem_nil
        · exact induction later
      · next apart =>
        rw [List.modifyHead_cons] at member
        obtain rfl | later := List.mem_cons.mp member
        · have absent := induction List.mem_cons_self
          simp only [beq_iff_eq] at apart
          simpa [Ne.symm apart] using absent
        · exact induction (List.mem_cons_of_mem _ later)

end Splitting

def WorktreeField.text (field : WorktreeField) : List Char :=
  field.name.toList ++ (field.value.map fun value => ' ' :: value.toList).getD []

def inventoryText (records : List (List WorktreeField)) : List Char :=
  records.flatMap fun record => (record.flatMap fun field => field.text ++ [nul]) ++ [nul]

def worktreeFieldNames : List String :=
  ["worktree", "HEAD", "branch", "bare", "detached", "locked"]

structure RegistersWorktree (schemas : WorktreeSchemas) (record : List WorktreeField) : Prop where
  named : ∀ field ∈ record, field.name ∈ worktreeFieldNames
  once : (record.map (·.name)).Nodup
  path : "worktree" ∈ record.map (·.name)
  mode : (["bare", "detached", "branch"].filter (· ∈ record.map (·.name))).length = 1
  head : "bare" ∈ record.map (·.name) ∨ "HEAD" ∈ record.map (·.name)
  values : ∀ field ∈ record, schemas.accepts field.name (field.value.getD "") = true

def registered (record : List WorktreeField) : WorktreeRegistration :=
  let fields := record.map (·.property)
  registrationOf fields ((fields.lookup "worktree").getD "")

def writtenField (name value : String) : WorktreeField :=
  ⟨name, if value = "" then none else some value⟩

def WorktreeRegistration.fields (registration : WorktreeRegistration) : List WorktreeField :=
  writtenField "worktree" registration.worktree :: [
    registration.HEAD.map (writtenField "HEAD"),
    registration.branch.map (writtenField "branch"),
    registration.bare.map (writtenField "bare"),
    registration.detached.map (writtenField "detached"),
    registration.locked.map (writtenField "locked")].filterMap id

/-- The text is an inventory of records that register worktrees at distinct paths, by those of their
fields that count. -/
structure InventoryOf (schemas : WorktreeSchemas)
    (counted : List WorktreeField → List WorktreeField) (output : String)
    (records : List (List WorktreeField)) : Prop where
  nonempty : records ≠ []
  terminated : ∀ record ∈ records, ∀ field ∈ record, nul ∉ field.text
  registers : ∀ record ∈ records, RegistersWorktree schemas (counted record)
  paths : (records.map fun record => (registered (counted record)).worktree).Nodup
  text : output.toList = inventoryText records

def assignedFields (record : List WorktreeField) : List WorktreeField :=
  record.filter fun field => field.name ≠ "__proto__"

def HidesField (schemas : WorktreeSchemas) (output : String) : Prop :=
  ∃ records, InventoryOf schemas assignedFields output records ∧
    ∃ record ∈ records, ∃ field ∈ record, field.name = "__proto__"

/-- The decoder accepts exactly the inventories, gives rendered registrations back, and accepts no
text that ends inside a record of an inventory. -/
structure InventoryExact (schemas : WorktreeSchemas) (output : String) : Prop where
  decodes (registrations : List WorktreeRegistration) :
    decodeGitWorktreeRegistrations schemas output = .ok registrations ↔
      ∃ records, InventoryOf schemas id output records ∧ registrations = records.map registered
  rendered (registrations : List WorktreeRegistration) :
    InventoryOf schemas id output (registrations.map (·.fields)) →
      decodeGitWorktreeRegistrations schemas output = .ok registrations
  whole (records : List (List WorktreeField)) (cut : String)
      (registrations : List WorktreeRegistration) :
    InventoryOf schemas id output records → cut.toList <+: output.toList →
      decodeGitWorktreeRegistrations schemas cut = .ok registrations →
        ∃ kept, kept <+: records ∧ cut.toList = inventoryText kept

section Reading

def readRecord (piece : List Char) : List WorktreeField :=
  (piece.splitOn nul).map worktreeField

/-- Fields that a reader tells apart. -/
structure Readable (record : List WorktreeField) : Prop where
  nonempty : record ≠ []
  fields : ∀ field ∈ record, field.name ≠ "" ∧ ' ' ∉ field.name.toList ∧ nul ∉ field.text

def recordText (record : List WorktreeField) : List Char :=
  [nul].intercalate (record.map (·.text))

variable {record : List WorktreeField} {records kept : List (List WorktreeField)}
  {field : WorktreeField} {text piece body rest : List Char}

@[simp]
theorem text_worktreeField : (worktreeField text).text = text := by
  rw [worktreeField, WorktreeField.text, String.toList_ofList]
  cases behind : text.dropWhile (· ≠ ' ') with
  | nil =>
      have whole := List.takeWhile_append_dropWhile (p := (· ≠ ' ')) (l := text)
      rw [behind, List.append_nil] at whole
      simpa using whole
  | cons separator value =>
      have whole := List.takeWhile_append_dropWhile (p := (· ≠ ' ')) (l := text)
      have blank : separator = ' ' := by
        have first := List.head?_dropWhile_not (· ≠ ' ') text
        rw [behind] at first
        simpa using first
      rw [behind, blank] at whole
      simpa using whole

theorem worktreeField_text (plain : ' ' ∉ field.name.toList) :
    worktreeField field.text = field := by
  have kept : ∀ char ∈ field.name.toList, decide (char ≠ ' ') = true := by
    intro char member
    exact decide_eq_true fun blank => plain (blank ▸ member)
  obtain ⟨name, value⟩ := field
  rw [worktreeField, WorktreeField.text, List.takeWhile_append_of_pos kept,
    List.dropWhile_append_of_pos kept]
  cases value <;> simp

theorem Readable.plain (readable : Readable record) (member : text ∈ record.map (·.text)) :
    text ≠ [] ∧ nul ∉ text := by
  obtain ⟨field, inside, rfl⟩ := List.mem_map.mp member
  obtain ⟨named, -, terminated⟩ := readable.fields field inside
  refine ⟨fun empty => named ?_, terminated⟩
  rw [WorktreeField.text, List.append_eq_nil_iff] at empty
  exact String.toList_eq_nil_iff.mp empty.1

theorem Readable.readRecord (readable : Readable record) :
    readRecord (recordText record) = record := by
  rw [Dalph.readRecord, recordText, List.splitOn_intercalate nul
    (fun text member => (readable.plain member).2) (by simpa using readable.nonempty), List.map_map]
  conv_rhs => rw [← List.map_id record]
  exact List.map_congr_left fun field member => worktreeField_text
    (readable.fields field member).2.1

theorem inventoryText_cons (nonempty : record ≠ []) :
    inventoryText (record :: records) =
      recordText record ++ nul :: nul :: inventoryText records := by
  have lines : record.map (·.text) ≠ [] := by simpa using nonempty
  have terminated := @flatMap_terminated _ [nul] lines
  rw [List.flatMap_map] at terminated
  rw [inventoryText, List.flatMap_cons, terminated, recordText]
  simp [inventoryText]

theorem Readable.splitPairs (readable : Readable record) :
    splitPairs nul (recordText record ++ rest) =
      (splitPairs nul rest).modifyHead (recordText record ++ ·) := by
  have lines : record.map (·.text) ≠ [] := by simpa using readable.nonempty
  exact splitPairs_fields lines fun text member => readable.plain member

theorem splitPairs_inventoryText (readable : Readable record) :
    splitPairs nul (inventoryText (record :: records) ++ rest) =
      recordText record :: splitPairs nul (inventoryText records ++ rest) := by
  rw [inventoryText_cons readable.nonempty, List.append_assoc, readable.splitPairs,
    List.cons_append,
    List.cons_append, splitPairs_pair, List.modifyHead_cons, List.append_nil]

theorem prefix_of_inventoryText_prefix (reads : ∀ record ∈ records, Readable record)
    (keeps : ∀ record ∈ kept, Readable record)
    (starts : inventoryText kept <+: inventoryText records) :
    kept <+: records := by
  induction kept generalizing records with
  | nil => exact List.nil_prefix
  | cons first kept induction =>
      obtain ⟨headed, keeps⟩ := List.forall_mem_cons.mp keeps
      obtain ⟨rest, extends_⟩ := starts
      cases records with
      | nil =>
          rw [inventoryText_cons headed.nonempty] at extends_
          simp [inventoryText] at extends_
      | cons record records =>
          obtain ⟨head, later⟩ := List.forall_mem_cons.mp reads
          have pieces := congrArg (splitPairs nul) extends_
          rw [splitPairs_inventoryText headed, ← List.append_nil
            (inventoryText (record :: records)),
            splitPairs_inventoryText head] at pieces
          have same : recordText first = recordText record := (List.cons.inj pieces).1
          obtain rfl : first = record := by
            rw [← headed.readRecord, same, head.readRecord]
          rw [inventoryText_cons head.nonempty, inventoryText_cons head.nonempty, List.append_assoc,
            List.append_cancel_left_eq] at extends_
          simp only [List.cons_append, List.cons.injEq, true_and] at extends_
          exact (List.prefix_cons_inj first).mpr (induction later keeps ⟨rest, extends_⟩)

theorem inventoryText_read :
    inventoryText ((splitPairs nul body).map readRecord) = body ++ [nul, nul] := by
  rw [← flatMap_splitPairs, inventoryText, List.flatMap_map]
  congr 1
  funext piece
  have terminated := @flatMap_terminated _ [nul] (piece.splitOn_ne_nil nul)
  rw [List.intercalate_splitOn] at terminated
  rw [readRecord, List.flatMap_map]
  simp [terminated]

theorem read_inventoryText (nonempty : records ≠ []) (reads : ∀ record ∈ records, Readable record) :
    ∃ body, inventoryText records = body ++ [nul, nul] ∧
      (splitPairs nul body).map readRecord = records := by
  induction records with
  | nil => contradiction
  | cons record records induction =>
      obtain ⟨head, reads⟩ := List.forall_mem_cons.mp reads
      cases records with
      | nil =>
          refine ⟨recordText record, inventoryText_cons head.nonempty, ?_⟩
          have whole := @head.splitPairs _ []
          rw [List.append_nil] at whole
          rw [whole]
          simp [splitPairs, head.readRecord]
      | cons next records =>
          obtain ⟨body, text, read⟩ := induction (by simp) reads
          refine ⟨recordText record ++ nul :: nul :: body, ?_, ?_⟩
          · rw [inventoryText_cons head.nonempty, text]
            simp
          · rw [head.splitPairs, splitPairs_pair, List.modifyHead_cons, List.append_nil,
              List.map_cons,
              read, head.readRecord]

end Reading

section Decoding

variable {schemas : WorktreeSchemas} {record : List WorktreeField} {texts pieces : List (List Char)}
  {fields result : List (String × String)} {name worktree : String} {paths : List String}
  {registration : WorktreeRegistration} {registrations decoded : List WorktreeRegistration}
  {piece : List Char}

theorem isSome_lookup_property :
    ((record.map (·.property)).lookup name).isSome = decide (name ∈ record.map (·.name)) := by
  induction record with
  | nil => rfl
  | cons field record induction =>
      rw [List.map_cons, WorktreeField.property, List.lookup_cons]
      by_cases same : name = field.name
      · simp [same]
      · simp only [beq_eq_false_iff_ne.mpr same, induction, List.map_cons, List.mem_cons, same,
          false_or]

theorem collectFields_eq_ok_iff (plain : "__proto__" ∉ fields.map Prod.fst)
    (once : (fields.map Prod.fst).Nodup) :
    collectFields fields texts = .ok result ↔
      (fields.map Prod.fst ++ (assignedFields (texts.map worktreeField)).map (·.name)).Nodup ∧
        result = fields ++ (assignedFields (texts.map worktreeField)).map (·.property) := by
  induction texts generalizing fields with
  | nil => simp [collectFields, assignedFields, once, eq_comm]
  | cons text texts induction =>
      rw [collectFields, List.map_cons]
      by_cases hides : (worktreeField text).name = "__proto__"
      · have skipped : assignedFields (worktreeField text :: texts.map worktreeField) =
            assignedFields (texts.map worktreeField) := List.filter_cons_of_neg (by simp [hides])
        simp only [hides, plain, if_false, assignField, if_true, skipped]
        exact induction plain once
      · have counted : assignedFields (worktreeField text :: texts.map worktreeField) =
            worktreeField text :: assignedFields (texts.map worktreeField) :=
          List.filter_cons_of_pos (by simp [hides])
        rw [counted]
        by_cases repeated : (worktreeField text).name ∈ fields.map Prod.fst
        · simp only [repeated, if_true, reduceCtorEq, false_iff, not_and]
          intro distinct
          exact absurd rfl ((List.nodup_append.mp distinct).2.2 _ repeated _ List.mem_cons_self)
        · simp only [repeated, if_false, assignField, hides]
          rw [induction]
          · simp [WorktreeField.property]
          · simpa [WorktreeField.property, Ne.symm hides] using plain
          · rw [List.map_append]
            simpa [WorktreeField.property] using once.concat repeated

theorem decodeRegistration_eq_ok_iff :
    decodeRegistration schemas fields = .ok registration ↔
      ∃ worktree, fields.lookup "worktree" = some worktree ∧
        (∀ field ∈ fields, schemas.accepts field.1 field.2 = true) ∧
          registration = registrationOf fields worktree := by
  rw [decodeRegistration]
  cases path : fields.lookup "worktree" with
  | none => simp
  | some worktree =>
      simp only [Option.some.injEq, exists_eq_left']
      rw [← List.all_eq_true]
      cases valid : fields.all fun field => schemas.accepts field.1 field.2 with
      | false => simp
      | true =>
          simp only [Except.ok.injEq, true_and]
          exact eq_comm

theorem provesCheckoutMode_iff :
    provesCheckoutMode (registrationOf (record.map (·.property)) worktree) = true ↔
      (["bare", "detached", "branch"].filter (· ∈ record.map (·.name))).length = 1 ∧
        ("bare" ∈ record.map (·.name) ∨ "HEAD" ∈ record.map (·.name)) := by
  simp only [provesCheckoutMode, registrationOf, List.filter_cons, List.filter_nil,
    ← Option.not_isSome, isSome_lookup_property]
  by_cases bare : "bare" ∈ record.map (·.name) <;>
    by_cases detached : "detached" ∈ record.map (·.name) <;>
      by_cases branch : "branch" ∈ record.map (·.name) <;> simp [bare, detached, branch]

theorem mem_worktreeFieldNames_of_accepts {value : String}
    (accepted : schemas.accepts name value = true) : name ∈ worktreeFieldNames := by
  by_contra absent
  simp only [worktreeFieldNames, List.mem_cons, List.not_mem_nil, or_false, not_or] at absent
  obtain ⟨worktree, head, branch, bare, detached, locked⟩ := absent
  rw [WorktreeSchemas.accepts.eq_7 schemas name value worktree head branch bare detached locked]
    at accepted
  contradiction

theorem decodeRecord_eq_ok_iff :
    decodeRecord schemas piece = .ok registration ↔
      RegistersWorktree schemas (assignedFields (readRecord piece)) ∧
        registration = registered (assignedFields (readRecord piece)) := by
  have collected : ∀ fields, collectFields [] (piece.splitOn nul) = .ok fields ↔
      ((assignedFields (readRecord piece)).map (·.name)).Nodup ∧
        fields = (assignedFields (readRecord piece)).map (·.property) :=
    fun _ => collectFields_eq_ok_iff List.not_mem_nil List.nodup_nil
  simp only [decodeRecord, Except.bind_eq_ok_iff, collected, decodeRegistration_eq_ok_iff]
  generalize assignedFields (readRecord piece) = record
  constructor
  · rintro ⟨fields, ⟨once, rfl⟩, proved, ⟨worktree, path, values, rfl⟩, accepted⟩
    split at accepted
    · next proves =>
      obtain ⟨mode, head⟩ := provesCheckoutMode_iff.mp proves
      have present := congrArg Option.isSome path
      rw [isSome_lookup_property, Option.isSome_some, decide_eq_true_eq] at present
      have valid : ∀ field ∈ record, schemas.accepts field.name (field.value.getD "") = true :=
        fun field member => values _ (List.mem_map_of_mem member)
      refine ⟨⟨fun field member => mem_worktreeFieldNames_of_accepts (valid field member), once,
        present,
        mode, head, valid⟩, ?_⟩
      rw [registered, path, ← Except.ok.inj accepted, Option.getD_some]
    · contradiction
  · rintro ⟨registers, rfl⟩
    have present := registers.path
    rw [← decide_eq_true_eq (p := _ ∈ _), ← isSome_lookup_property] at present
    obtain ⟨worktree, path⟩ := Option.isSome_iff_exists.mp present
    refine ⟨_, ⟨registers.once, rfl⟩, _, ⟨worktree, path, ?_, rfl⟩, ?_⟩
    · intro property member
      obtain ⟨field, inside, rfl⟩ := List.mem_map.mp member
      exact registers.values field inside
    · rw [if_pos (provesCheckoutMode_iff.mpr ⟨registers.mode, registers.head⟩), registered, path,
        Option.getD_some]

def readRegistration (piece : List Char) : WorktreeRegistration :=
  registered (assignedFields (readRecord piece))

theorem decodeRecords_eq_ok_iff :
    decodeRecords schemas paths registrations pieces = .ok decoded ↔
      (∀ piece ∈ pieces, RegistersWorktree schemas (assignedFields (readRecord piece))) ∧
        (∀ piece ∈ pieces, (readRegistration piece).worktree ∉ paths) ∧
        (pieces.map fun piece => (readRegistration piece).worktree).Nodup ∧
          decoded = registrations ++ pieces.map readRegistration := by
  induction pieces generalizing paths registrations with
  | nil => simp [decodeRecords, eq_comm]
  | cons piece pieces induction =>
      rw [decodeRecords, List.forall_mem_cons, List.forall_mem_cons, List.map_cons, List.nodup_cons]
      cases decision : decodeRecord schemas piece with
      | error detail =>
          have refused : ¬ RegistersWorktree schemas (assignedFields (readRecord piece)) := by
            intro registers
            rw [decodeRecord_eq_ok_iff.mpr ⟨registers, rfl⟩] at decision
            contradiction
          simp [refused]
      | ok registration =>
          obtain ⟨registers, rfl⟩ := decodeRecord_eq_ok_iff.mp decision
          simp only [← readRegistration.eq_1]
          by_cases repeated : (readRegistration piece).worktree ∈ paths
          · simp [repeated]
          · rw [if_neg repeated, induction, List.map_cons, List.append_assoc, List.singleton_append]
            constructor
            · rintro ⟨valid, fresh, distinct, result⟩
              simp only [List.mem_cons, not_or] at fresh
              refine ⟨⟨registers, valid⟩, ⟨repeated, fun other later => (fresh other later).2⟩,
                ⟨?_, distinct⟩, result⟩
              intro again
              obtain ⟨other, later, same⟩ := List.mem_map.mp again
              exact (fresh other later).1 same
            · rintro ⟨⟨-, valid⟩, ⟨-, fresh⟩, ⟨apart, distinct⟩, result⟩
              refine ⟨valid, fun other later => ?_, distinct, result⟩
              rw [List.mem_cons, not_or]
              exact ⟨fun same => apart (List.mem_map.mpr ⟨other, later, same⟩), fresh other later⟩

end Decoding

section Inventories

variable {schemas : WorktreeSchemas} {output : String} {record : List WorktreeField}
  {records others : List (List WorktreeField)} {registrations : List WorktreeRegistration}

theorem assignedFields_eq_self (plain : ∀ field ∈ record, field.name ≠ "__proto__") :
    assignedFields record = record :=
  List.filter_eq_self.mpr fun field member => decide_eq_true (plain field member)

theorem InventoryOf.readable (inventory : InventoryOf schemas assignedFields output records) :
    ∀ record ∈ records, Readable record := by
  intro record member
  have registers := inventory.registers record member
  refine ⟨?_, fun field inside => ?_⟩
  · rintro rfl
    exact absurd registers.path (by simp [assignedFields])
  · have plain : ∀ name ∈ "__proto__" :: worktreeFieldNames, name ≠ "" ∧ ' ' ∉ name.toList := by
      decide
    have named : field.name ∈ "__proto__" :: worktreeFieldNames := by
      by_cases hides : field.name = "__proto__"
      · exact List.mem_cons.mpr (.inl hides)
      · exact List.mem_cons_of_mem _ (registers.named field
          (List.mem_filter.mpr ⟨inside, decide_eq_true hides⟩))
    exact ⟨(plain _ named).1, (plain _ named).2, inventory.terminated record member field inside⟩

/-- The decoder accepts the inventories by the fields that it assigns. -/
theorem decodeGitWorktreeRegistrations_eq_ok_iff :
    decodeGitWorktreeRegistrations schemas output = .ok registrations ↔
      ∃ records, InventoryOf schemas assignedFields output records ∧
        registrations = records.map fun record => registered (assignedFields record) := by
  have decoded : ∀ body, output.toList = body ++ [nul, nul] →
      decodeGitWorktreeRegistrations schemas output =
        decodeRecords schemas [] [] (splitPairs nul body) := by
    intro body text
    rw [decodeGitWorktreeRegistrations, text]
    simp
  constructor
  · intro accepted
    by_cases ends : [nul, nul] <:+ output.toList
    · obtain ⟨body, text⟩ := ends
      rw [decoded body text.symm, decodeRecords_eq_ok_iff] at accepted
      obtain ⟨registers, -, distinct, rfl⟩ := accepted
      refine ⟨(splitPairs nul body).map readRecord, ⟨?_, ?_, ?_, ?_, ?_⟩, ?_⟩
      · simpa using splitPairs_ne_nil
      · intro record member field inside
        obtain ⟨piece, -, rfl⟩ := List.mem_map.mp member
        obtain ⟨line, read, rfl⟩ := List.mem_map.mp inside
        rw [text_worktreeField]
        exact not_mem_of_mem_splitOn read
      · intro record member
        obtain ⟨piece, read, rfl⟩ := List.mem_map.mp member
        exact registers piece read
      · simpa [Function.comp_def, readRegistration] using distinct
      · rw [inventoryText_read, text]
      · simp [Function.comp_def, readRegistration]
    · rw [decodeGitWorktreeRegistrations, if_neg ends] at accepted
      contradiction
  · rintro ⟨records, inventory, rfl⟩
    obtain ⟨body, text, read⟩ := read_inventoryText inventory.nonempty inventory.readable
    rw [decoded body (inventory.text.trans text), decodeRecords_eq_ok_iff]
    subst read
    refine ⟨fun piece read => inventory.registers _ (List.mem_map_of_mem read), by simp, ?_, ?_⟩
    · simpa [Function.comp_def, readRegistration] using inventory.paths
    · simp [Function.comp_def, readRegistration]

theorem InventoryOf.plain (inventory : InventoryOf schemas id output records) :
    ∀ record ∈ records, ∀ field ∈ record, field.name ≠ "__proto__" := by
  intro record member field inside hides
  have named := (inventory.registers record member).named field inside
  rw [hides] at named
  exact absurd named (by decide)

theorem inventoryOf_iff (plain : ∀ record ∈ records, ∀ field ∈ record, field.name ≠ "__proto__") :
    InventoryOf schemas id output records ↔ InventoryOf schemas assignedFields output records := by
  have counted : ∀ record ∈ records, assignedFields record = record :=
    fun record member => assignedFields_eq_self (plain record member)
  have paths : (records.map fun record => (registered (assignedFields record)).worktree) =
      records.map fun record => (registered (id record)).worktree :=
    List.map_congr_left fun record member => by rw [counted record member, id]
  constructor
  · intro inventory
    refine ⟨inventory.nonempty, inventory.terminated, fun record member => ?_, ?_, inventory.text⟩
    · rw [counted record member]
      exact inventory.registers record member
    · rw [paths]
      exact inventory.paths
  · intro inventory
    refine ⟨inventory.nonempty, inventory.terminated, fun record member => ?_, ?_, inventory.text⟩
    · rw [id, ← counted record member]
      exact inventory.registers record member
    · rw [← paths]
      exact inventory.paths

theorem InventoryOf.unique (inventory : InventoryOf schemas assignedFields output records)
    (another : InventoryOf schemas assignedFields output others) : records = others := by
  have same := inventory.text.symm.trans another.text
  have onward := prefix_of_inventoryText_prefix another.readable inventory.readable
    (same ▸ List.prefix_rfl)
  have backward := prefix_of_inventoryText_prefix inventory.readable another.readable
    (same ▸ List.prefix_rfl)
  exact onward.eq_of_length (Nat.le_antisymm onward.length_le backward.length_le)

theorem HidesField.not_inventoryExact (hidden : HidesField schemas output) :
    ¬ InventoryExact schemas output := by
  intro exactly
  obtain ⟨records, inventory, record, member, field, inside, hides⟩ := hidden
  have accepted := decodeGitWorktreeRegistrations_eq_ok_iff.mpr ⟨records, inventory, rfl⟩
  obtain ⟨others, strict, -⟩ := (exactly.decodes _).mp accepted
  obtain rfl := inventory.unique ((inventoryOf_iff strict.plain).mp strict)
  exact strict.plain record member field inside hides

theorem property_writtenField {name value : String} :
    (writtenField name value).property = (name, value) := by
  rw [WorktreeField.property, writtenField]
  split <;> simp [*]

theorem registered_fields (registration : WorktreeRegistration) :
    registered registration.fields = registration := by
  obtain ⟨worktree, head, branch, bare, detached, locked⟩ := registration
  cases head <;> cases branch <;> cases bare <;> cases detached <;> cases locked <;>
    simp [registered, WorktreeRegistration.fields, registrationOf, property_writtenField,
      List.lookup_cons]

end Inventories

/-- The inventories are what the decoder accepts, but for a text with a field that the object of
its record does not show. -/
theorem inventoryExact_iff (schemas : WorktreeSchemas) (output : String) :
    InventoryExact schemas output ↔ ¬ HidesField schemas output := by
  constructor
  · exact fun exactly hides => hides.not_inventoryExact exactly
  · intro shown
    have decodes : ∀ registrations, decodeGitWorktreeRegistrations schemas output =
      .ok registrations ↔
        ∃ records, InventoryOf schemas id output records ∧
          registrations = records.map registered := by
      intro registrations
      rw [decodeGitWorktreeRegistrations_eq_ok_iff]
      constructor
      · rintro ⟨records, inventory, rfl⟩
        have plain : ∀ record ∈ records, ∀ field ∈ record, field.name ≠ "__proto__" :=
          fun record member field inside hides =>
            shown ⟨records, inventory, record, member, field, inside, hides⟩
        refine ⟨records, (inventoryOf_iff plain).mpr inventory, ?_⟩
        exact List.map_congr_left fun record member => by
          rw [assignedFields_eq_self (plain record member)]
      · rintro ⟨records, strict, rfl⟩
        refine ⟨records, (inventoryOf_iff strict.plain).mp strict, ?_⟩
        exact List.map_congr_left fun record member => by
          rw [assignedFields_eq_self (strict.plain record member)]
    refine ⟨decodes, fun registrations rendered => ?_, fun records cut registrations strict starts
      accepted => ?_⟩
    · refine (decodes registrations).mpr ⟨_, rendered, ?_⟩
      simp [Function.comp_def, registered_fields]
    · obtain ⟨kept, inventory, -⟩ := decodeGitWorktreeRegistrations_eq_ok_iff.mp accepted
      refine ⟨kept, ?_, inventory.text⟩
      rw [strict.text, inventory.text] at starts
      exact prefix_of_inventoryText_prefix ((inventoryOf_iff strict.plain).mp strict).readable
        inventory.readable starts

def openSchemas : WorktreeSchemas where
  worktreeLocator value := value ≠ ""
  gitCommitSha value := value.length = 40
  taskBranchRef value := value.startsWith "refs/heads/"
  failure _ := "refused"

def hiddenField : List WorktreeField :=
  [⟨"worktree", some "/work"⟩, ⟨"HEAD", some "0123456789012345678901234567890123456789"⟩,
    ⟨"detached", none⟩, ⟨"__proto__", some "x"⟩]

/-- The unexpected field is accepted. -/
theorem inventoryExact_hiddenField :
    ¬ InventoryExact openSchemas (String.ofList (inventoryText [hiddenField])) := by
  have counted : assignedFields hiddenField = hiddenField.take 3 := by decide
  have registers : RegistersWorktree openSchemas (hiddenField.take 3) :=
    ⟨by decide, by decide, by decide, by decide, by decide, by decide +kernel⟩
  apply HidesField.not_inventoryExact
  refine ⟨[hiddenField], ⟨by simp, by decide +kernel, ?_, by simp, String.toList_ofList⟩,
    hiddenField, by simp, ⟨"__proto__", some "x"⟩, by simp [hiddenField], rfl⟩
  simpa [counted] using registers

end Dalph
