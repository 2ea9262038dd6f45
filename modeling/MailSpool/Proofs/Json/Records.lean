import Mathlib.Data.List.Nodup
import MailSpool.Proofs.Json.Scalars

/-!
# Reading records

An object whose members are fields of a record, each at most once, or no fields at all, gives the
record in which the fields given are replaced, and so does a list of the first of its fields. An
object that names a field twice gives nothing.
-/

namespace MailSpool.Json

variable {Record Entry : Type}

/-- What can be given to a record: entries, each for the field of one name, which are spelled in
some way and put into the record. -/
structure Format (Record Entry : Type) where
  names : List String
  name : Entry → String
  IsSpelled : Entry → List Char → Prop
  put : Record → Entry → Record

namespace Format

variable (format : Format Record Entry)

/-- Members of an object, and the entries that they give in their order. -/
inductive IsGiven : List Member → List Entry → Prop where
  | nil : IsGiven [] []
  | field {member : Member} {members : List Member} {entry : Entry} {entries : List Entry} :
      Spells member.key (format.name entry).toList → format.IsSpelled entry member.item.value →
      IsGiven members entries → IsGiven (member :: members) (entry :: entries)
  | other {member : Member} {members : List Member} {name : String} {entries : List Entry} :
      Spells member.key name.toList → name ∉ format.names → IsValue member.item.value →
      IsGiven members entries → IsGiven (member :: members) entries

/-- An object that gives entries, each for another field. -/
inductive IsObject : List Char → List Entry → Prop where
  | members {blank : List Char} {members : List Member} {entries : List Entry} :
      IsBlank blank → (∀ member ∈ members, member.IsFramed) → format.IsGiven members entries →
      (entries.map format.name).Nodup → IsObject (objectText blank members) entries

/-- A list that gives entries for the first fields. -/
inductive IsList : List Char → List Entry → Prop where
  | items {blank : List Char} {items : List Item} {entries : List Entry} :
      IsBlank blank → (∀ item ∈ items, item.IsFramed) →
      List.Forall₂ (fun item entry => format.IsSpelled entry item.value) items entries →
      entries.map format.name <+: format.names → IsList (listText blank items) entries

def IsRecord (text : List Char) (entries : List Entry) : Prop :=
  format.IsObject text entries ∨ format.IsList text entries

variable {format}

theorem IsGiven.exists_isSpelled {members : List Member} {entries : List Entry}
    (given : format.IsGiven members entries) {entry : Entry} (isEntry : entry ∈ entries) :
    ∃ text, format.IsSpelled entry text := by
  induction given with
  | nil => simp at isEntry
  | field _ spelled _ ih =>
    rcases List.mem_cons.mp isEntry with rfl | isOther
    · exact ⟨_, spelled⟩
    · exact ih isOther
  | other _ _ _ _ ih => exact ih isEntry

theorem IsRecord.exists_isSpelled {text : List Char} {entries : List Entry}
    (isRecord : format.IsRecord text entries) {entry : Entry} (isEntry : entry ∈ entries) :
    ∃ value, format.IsSpelled entry value := by
  rcases isRecord with isObject | isList
  · cases isObject with
    | members _ _ given => exact given.exists_isSpelled isEntry
  · cases isList with
    | items _ _ spelled =>
      rcases List.mem_iff_getElem.mp isEntry with ⟨index, bound, rfl⟩
      exact ⟨_, spelled.get (spelled.length_eq ▸ bound) bound⟩

end Format

/-- A well-formed object that names a field twice. -/
inductive Repeats (names : List String) : List Char → Prop where
  | members {blank : List Char} {members : List Member} {first second : Member} {name : String} :
      IsBlank blank → AreMembers members → [first, second].Sublist members → name ∈ names →
      Spells first.key name.toList → Spells second.key name.toList →
      Repeats names (objectText blank members)

/-- A well-formed object or list that gives a value to the field of a name. -/
inductive Assigns (names : List String) (name : String) (value : List Char) : List Char → Prop where
  | member {blank : List Char} {members : List Member} {member : Member} :
      IsBlank blank → AreMembers members → member ∈ members → Spells member.key name.toList →
      member.item.value = value → Assigns names name value (objectText blank members)
  | item {blank : List Char} {items : List Item} {item : Item} {index : Nat} :
      IsBlank blank → AreItems items → items[index]? = some item → names[index]? = some name →
      item.value = value → Assigns names name value (listText blank items)

/-! ## One member -/

namespace Schema

variable (schema : Schema Record)

/-- What is read behind the key of a member: the value of a field, or one that is skipped. -/
def memberValue (seen : List String) (record : Record) (key : String) (cursor : Cursor) :
    Except Fault (List String × Record × Cursor) :=
  match schema.fields.find? fun field => field.name = key with
  | some field =>
    if key ∈ seen then .error (duplicateFault key cursor)
    else do
      let (record, cursor) ← field.assign record (← cursor.colon)
      pure (key :: seen, record, cursor)
  | none => do
    let cursor ← (← cursor.colon).skipValue
    pure (seen, record, cursor)

/-- What is read behind a member: the end of the object, or the next member. -/
def memberEnd (bound : Nat) (seen : List String) (record : Record) (cursor : Cursor) :
    Except Fault (Record × Cursor) :=
  let cursor := cursor.skipSpace
  match cursor.next? with
  | some '\x7d' => .ok (record, cursor.advance)
  | some ',' =>
    let cursor := cursor.advance.skipSpace
    match cursor.next? with
    | some '"' => schema.members bound seen record cursor
    | some '\x7d' => .error (cursor.faultAhead .trailingComma)
    | some _ => .error (cursor.faultAhead .keyNotString)
    | none => .error (cursor.faultAhead .endInValue)
  | some _ => .error (cursor.faultAhead .expectedObjectEnd)
  | none => .error (cursor.faultAhead .endInObject)

theorem members_succ (bound : Nat) (seen : List String) (record : Record) (cursor : Cursor) :
    schema.members (bound + 1) seen record cursor =
      cursor.advance.stringBody >>= fun (key, cursor) =>
        schema.memberValue seen record key cursor >>= fun (seen, record, cursor) =>
          schema.memberEnd bound seen record cursor := by
  rw [members]
  rcases cursor.advance.stringBody with fault | ⟨key, behind⟩
  · rfl
  simp only [bind, Except.bind, memberValue]
  cases schema.fields.find? (fun field => decide (field.name = key)) with
  | none =>
    rcases behind.colon with fault | colon
    · rfl
    · rcases skipped : colon.skipValue with fault | value
      · simp only [skipped]
      · simp only [skipped]
        rfl
  | some field =>
    by_cases again : key ∈ seen
    · simp only [again, if_true]
    · rcases behind.colon with fault | colon
      · simp only [again, if_false]
      · rcases assigned : field.assign record colon with fault | ⟨record, value⟩
        · simp only [again, if_false, assigned]
        · simp only [again, if_false, assigned]
          rfl

variable {schema}

variable {seen : List String} {record : Record} {cursor : Cursor} {blank rest : List Char}
  {bound : Nat}

theorem gives_memberEnd (isBlank : IsBlank blank) (stands : cursor.rest = blank ++ '\x7d' :: rest) :
    Gives (schema.memberEnd bound seen record cursor) record rest := by
  have closing := Cursor.faces_of_rest stands isBlank (by decide)
  refine ⟨_, ?_, Cursor.rest_advance closing⟩
  simp only [memberEnd, Cursor.next?_eq closing]

theorem exists_memberEnd_eq {second : Member} {others : List Member} (isBlank : IsBlank blank)
    (areMembers : AreMembers (second :: others))
    (stands : cursor.rest = blank ++ trailing ((second :: others).map Member.text) '\x7d' rest) :
    ∃ next : Cursor, schema.memberEnd bound seen record cursor =
      schema.members bound seen record next ∧ next.rest = second.onward others rest := by
  rw [List.map_cons, trailing_cons] at stands
  have comma := Cursor.faces_of_rest stands isBlank (by decide)
  have faces := Cursor.faces_member isBlank_nil (Cursor.rest_advance comma) areMembers
  refine ⟨_, ?_, faces⟩
  simp only [memberEnd, Cursor.next?_eq comma, Cursor.next?_eq faces]

end Schema

theorem Cursor.stops_colon {cursor : Cursor} {blank rest : List Char} (isBlank : IsBlank blank)
    (stands : cursor.rest = blank ++ ':' :: rest) : Stops cursor.colon rest := by
  have colon := Cursor.faces_of_rest stands isBlank (by decide)
  refine ⟨_, ?_, Cursor.rest_advance colon⟩
  simp only [Cursor.colon, Cursor.next?_eq colon]

theorem Member.exists_faces_value {member : Member} {others : List Member} {rest : List Char}
    (areMembers : AreMembers (member :: others)) {cursor : Cursor}
    (stands : cursor.rest = member.behind ++ ':' :: (member.item.text ++
      trailing (others.map Member.text) '\x7d' rest)) :
    ∃ colon, cursor.colon = .ok colon ∧ colon.Faces (member.item.value ++
      (member.item.behind ++ trailing (others.map Member.text) '\x7d' rest)) := by
  have isFramed := areMembers.framed member (by simp)
  rcases Cursor.stops_colon isFramed.behind stands with ⟨colon, read, left⟩
  rw [Item.text, List.append_assoc, List.append_assoc] at left
  exact ⟨colon, read, Cursor.faces_value left isFramed.item.1 (areMembers.values member (by simp))⟩

theorem Schema.gives_items_nil {fields : List (SchemaField Record)} {record : Record}
    {cursor : Cursor} {rest : List Char} (isFirst : Bool) (closing : cursor.Faces (']' :: rest)) :
    Gives (Schema.items fields isFirst record cursor) record rest := by
  refine ⟨_, ?_, Cursor.rest_advance closing⟩
  cases fields with
  | nil =>
    simp only [Schema.items, Schema.listEnd, Cursor.next?_eq closing]
    rfl
  | cons field others => simp only [Schema.items, Cursor.next?_eq closing, if_true]

/-! ## Objects that are read -/

/-- The fields of a schema take what the entries of a format spell. -/
structure Format.Fits (format : Format Record Entry) (schema : Schema Record) : Prop where
  names : schema.fields.map SchemaField.name = format.names
  distinct : format.names.Nodup
  isValue {entry : Entry} {text : List Char} : format.IsSpelled entry text → IsValue text
  reads (entry : Entry) : ∃ field ∈ schema.fields, field.name = format.name entry ∧
    ∀ {text rest : List Char} {cursor : Cursor} (record : Record), format.IsSpelled entry text →
      Ends rest → cursor.Faces (text ++ rest) →
      Gives (field.assign record cursor) (format.put record entry) rest

namespace Format.Fits

variable {format : Format Record Entry} {schema : Schema Record} {seen : List String}
  {record : Record} {cursor : Cursor} {rest : List Char} {bound : Nat} {member : Member}
  {others : List Member} {entries : List Entry}

theorem gives (fits : format.Fits schema) {entry : Entry} {field : SchemaField Record}
    {text : List Char} (record : Record) (isField : field ∈ schema.fields)
    (isName : field.name = format.name entry) (spelled : format.IsSpelled entry text)
    (ends : Ends rest) (faces : cursor.Faces (text ++ rest)) :
    Gives (field.assign record cursor) (format.put record entry) rest := by
  have distinct := fits.distinct
  rw [← fits.names] at distinct
  rcases fits.reads entry with ⟨other, isOther, otherName, gives⟩
  obtain rfl : field = other :=
    List.inj_on_of_nodup_map distinct isField isOther (isName.trans otherName.symm)
  exact gives record spelled ends faces

theorem exists_field (fits : format.Fits schema) (entry : Entry) :
    ∃ field ∈ schema.fields, field.name = format.name entry ∧
      schema.fields.find? (fun field => decide (field.name = format.name entry)) = some field := by
  rcases found : schema.fields.find? (fun field => decide (field.name = format.name entry)) with
    _ | field
  · rcases fits.reads entry with ⟨field, isField, isName, _⟩
    have missing := List.find?_eq_none.mp found field isField
    simp [isName] at missing
  · exact ⟨field, List.mem_of_find?_eq_some found, by simpa using List.find?_some found, found⟩

theorem find?_eq_none (fits : format.Fits schema) {name : String} (isOther : name ∉ format.names) :
    schema.fields.find? (fun field => decide (field.name = name)) = none := by
  rw [List.find?_eq_none]
  intro field isField isName
  rw [← fits.names] at isOther
  exact isOther (List.mem_map.mpr ⟨field, isField, by simpa using isName⟩)

theorem areMembers (fits : format.Fits schema) {members : List Member}
    (framed : ∀ member ∈ members, member.IsFramed) (given : format.IsGiven members entries) :
    AreMembers members := by
  induction given with
  | nil => exact ⟨framed, by simp, by simp⟩
  | field key spelled _ ih =>
    rw [List.forall_mem_cons] at framed
    have areOthers := ih framed.2
    exact ⟨List.forall_mem_cons.mpr framed,
      List.forall_mem_cons.mpr ⟨key.isWritten, areOthers.keys⟩,
      List.forall_mem_cons.mpr ⟨fits.isValue spelled, areOthers.values⟩⟩
  | other key _ isValue _ ih =>
    rw [List.forall_mem_cons] at framed
    have areOthers := ih framed.2
    exact ⟨List.forall_mem_cons.mpr framed,
      List.forall_mem_cons.mpr ⟨key.isWritten, areOthers.keys⟩,
      List.forall_mem_cons.mpr ⟨isValue, areOthers.values⟩⟩

/-- The first member of an object is put into the record if it `IsGiven` for a field, and skipped if
it is not. -/
theorem exists_members_eq (fits : format.Fits schema) (areMembers : AreMembers (member :: others))
    (given : format.IsGiven (member :: others) entries) (distinct : (entries.map format.name).Nodup)
    (unseen : ∀ entry ∈ entries, format.name entry ∉ seen)
    (stands : cursor.rest = member.onward others rest) :
    ∃ later result behind more, schema.members (bound + 1) seen record cursor =
        schema.memberEnd bound later result behind ∧
      behind.rest = member.item.behind ++ trailing (others.map Member.text) '\x7d' rest ∧
      format.IsGiven others more ∧ (more.map format.name).Nodup ∧
      (∀ entry ∈ more, format.name entry ∉ later) ∧
      entries.foldl format.put record = more.foldl format.put result := by
  have ends := ends_trailing (areMembers.framed member (by simp)).item.2 (others.map Member.text)
    (by simp : '\x7d' ∈ _) rest
  have body := Cursor.rest_advance stands
  cases given with
  | @field _ _ entry more key spelled given =>
    rcases gives_stringBody key body with ⟨colon, read, left⟩
    rcases member.exists_faces_value areMembers left with ⟨value, readColon, faces⟩
    rcases fits.exists_field entry with ⟨field, isField, isName, found⟩
    rcases fits.gives record isField isName spelled ends faces with ⟨behind, assigned, stands⟩
    rw [List.map_cons, List.nodup_cons] at distinct
    rw [List.forall_mem_cons] at unseen
    refine ⟨format.name entry :: seen, _, behind, more, ?_, stands, given, distinct.2, ?_, rfl⟩
    · rw [Schema.members_succ, read, String.ofList_toList]
      simp only [Schema.memberValue, found, unseen.1, if_false, readColon, bind, Except.bind,
        assigned]
      rfl
    · intro other isOther
      rw [List.mem_cons, not_or]
      exact ⟨fun same => distinct.1 (List.mem_map.mpr ⟨other, isOther, same⟩),
        unseen.2 other isOther⟩
  | @other _ _ name _ key isOther isValue given =>
    rcases gives_stringBody key body with ⟨colon, read, left⟩
    rcases member.exists_faces_value areMembers left with ⟨value, readColon, faces⟩
    rcases Cursor.stops_skipValue isValue ends faces with ⟨behind, skipped, stands⟩
    have missing := fits.find?_eq_none isOther
    refine ⟨seen, record, behind, entries, ?_, stands, given, distinct, unseen, rfl⟩
    rw [Schema.members_succ, read, String.ofList_toList]
    simp only [Schema.memberValue, missing, readColon, bind, Except.bind, skipped]
    rfl

/-- What the `members` of an object give to a record. -/
theorem gives_members (fits : format.Fits schema) (areMembers : AreMembers (member :: others))
    (given : format.IsGiven (member :: others) entries) (distinct : (entries.map format.name).Nodup)
    (unseen : ∀ entry ∈ entries, format.name entry ∉ seen) (enough : others.length < bound)
    (stands : cursor.rest = member.onward others rest) :
    Gives (schema.members bound seen record cursor) (entries.foldl format.put record) rest := by
  induction others generalizing member seen record cursor bound entries with
  | nil =>
    rcases bound with _ | bound
    · simp at enough
    rcases fits.exists_members_eq areMembers given distinct unseen stands with
      ⟨later, result, behind, more, read, left, given, distinct, unseen, same⟩
    cases given
    rw [read, same]
    exact Schema.gives_memberEnd (areMembers.framed member (by simp)).item.2 left
  | cons second others ih =>
    rcases bound with _ | bound
    · simp at enough
    rcases fits.exists_members_eq areMembers given distinct unseen stands with
      ⟨later, result, behind, more, read, left, given, distinct, unseen, same⟩
    rcases Schema.exists_memberEnd_eq (areMembers.framed member (by simp)).item.2 areMembers.tail
      left
      with ⟨next, continues, stands⟩
    rw [read, same, continues]
    exact ih areMembers.tail given distinct unseen (Nat.lt_of_succ_lt_succ enough) stands

/-! ## Lists that are read -/

theorem areItems (fits : format.Fits schema) {items : List Item}
    (framed : ∀ item ∈ items, item.IsFramed)
    (spelled : List.Forall₂ (fun item entry => format.IsSpelled entry item.value) items entries) :
    AreItems items := by
  refine ⟨framed, ?_⟩
  clear framed
  induction spelled with
  | nil => simp
  | cons isSpelled _ ih => exact List.forall_mem_cons.mpr ⟨fits.isValue isSpelled, ih⟩

theorem gives_items (fits : format.Fits schema) {fields : List (SchemaField Record)}
    (isPart : fields ⊆ schema.fields) {items : List Item} (areItems : AreItems items)
    (spelled : List.Forall₂ (fun item entry => format.IsSpelled entry item.value) items entries)
    (leading : entries.map format.name <+: fields.map SchemaField.name) {blank : List Char}
    (isBlank : IsBlank blank)
    (stands : cursor.rest = blank ++ trailing (items.map Item.text) ']' rest) :
    Gives (Schema.items fields false record cursor) (entries.foldl format.put record) rest := by
  induction spelled generalizing fields record cursor blank with
  | nil => exact Schema.gives_items_nil false (Cursor.faces_of_rest stands isBlank (by decide))
  | @cons item entry items entries isSpelled _ ih =>
    rcases fields with _ | ⟨field, fields⟩
    · simp at leading
    rw [List.map_cons, List.map_cons, List.cons_prefix_cons] at leading
    rw [List.map_cons, trailing_cons] at stands
    have comma := Cursor.faces_of_rest stands isBlank (by decide)
    have faces := Cursor.faces_item isBlank_nil (Cursor.rest_advance comma) areItems
    have isFramed := areItems.framed item (by simp)
    have ends := ends_trailing isFramed.2 (items.map Item.text) (by simp : ']' ∈ _) rest
    rcases fits.gives record (isPart (by simp)) leading.1.symm isSpelled ends faces.skipSpace with
      ⟨behind, assigned, stands⟩
    rcases (areItems.values item (by simp)).exists_head with ⟨first, text, isText, _, noEnd, _⟩
    have next : cursor.skipSpace.advance.skipSpace.next? = some first := by
      rw [Item.onward, isText] at faces
      exact Cursor.next?_eq faces
    have noBracket : ',' ≠ ']' := by decide
    simp only [Schema.items, Cursor.next?_eq comma, noBracket, if_false, next, assigned, bind,
      Except.bind, if_true]
    exact ih (List.subset_of_cons_subset isPart) areItems.tail leading.2 isFramed.2 stands

/-- What the items of a list give to a record. -/
theorem gives_list (fits : format.Fits schema) {items : List Item} (areItems : AreItems items)
    (spelled : List.Forall₂ (fun item entry => format.IsSpelled entry item.value) items entries)
    (leading : entries.map format.name <+: format.names) {blank : List Char}
    (isBlank : IsBlank blank)
    (stands : cursor.rest = blank ++ (separated (items.map Item.text) ++ ']' :: rest)) :
    Gives (Schema.items schema.fields true record cursor)
      (entries.foldl format.put record) rest := by
  cases spelled with
  | nil => exact Schema.gives_items_nil true (Cursor.faces_of_rest stands isBlank (by decide))
  | @cons item entry items entries isSpelled spelled =>
    rw [List.map_cons, separated_cons_append] at stands
    rw [← fits.names] at leading
    rcases listed : schema.fields with _ | ⟨field, fields⟩
    · simp [listed] at leading
    rw [listed, List.map_cons, List.map_cons, List.cons_prefix_cons] at leading
    have faces := Cursor.faces_item isBlank stands areItems
    have isFramed := areItems.framed item (by simp)
    have ends := ends_trailing isFramed.2 (items.map Item.text) (by simp : ']' ∈ _) rest
    have isField : field ∈ schema.fields := by simp [listed]
    rcases fits.gives record isField leading.1.symm isSpelled ends faces.skipSpace with
      ⟨behind, assigned, stands⟩
    rcases (areItems.values item (by simp)).exists_head with ⟨first, text, isText, _, noEnd, _⟩
    have next : cursor.skipSpace.next? = some first := by
      rw [Item.onward, isText] at faces
      exact Cursor.next?_eq faces
    simp only [Schema.items, next, noEnd, if_false, if_true, assigned, bind, Except.bind]
    exact fits.gives_items (by simp [listed]) areItems.tail spelled leading.2 isFramed.2 stands

theorem isValue_of_isRecord (fits : format.Fits schema) {text : List Char}
    (isRecord : format.IsRecord text entries) : IsValue text := by
  rcases isRecord with isObject | isList
  · cases isObject with
    | members isBlank framed given =>
        exact isValue_objectText isBlank (fits.areMembers framed given)
  · cases isList with
    | items isBlank framed spelled => exact isValue_listText isBlank (fits.areItems framed spelled)

/-- No field is given twice. -/
theorem nodup_of_isRecord (fits : format.Fits schema) {text : List Char}
    (isRecord : format.IsRecord text entries) : (entries.map format.name).Nodup := by
  rcases isRecord with isObject | isList
  · cases isObject with
    | members _ _ _ distinct => exact distinct
  · cases isList with
    | items _ _ _ leading => exact fits.distinct.sublist leading.sublist

/-- What `read` makes of a text that `IsRecord` is what the entries do to the record. -/
theorem gives_read (fits : format.Fits schema) {text : List Char}
    (isRecord : format.IsRecord text entries) (faces : cursor.Faces (text ++ rest)) :
    Gives (schema.read record cursor) (entries.foldl format.put record) rest := by
  rcases isRecord with isObject | isList
  · cases isObject with
    | @members blank members entries isBlank framed given distinct =>
      have areMembers := fits.areMembers framed given
      have inside : cursor.skipSpace.advance.rest =
          blank ++ (separated (members.map Member.text) ++ '\x7d' :: rest) := by
        simpa [objectText] using Cursor.rest_advance faces
      rw [Schema.read, valueStart_eq faces]
      simp only [bind, Except.bind]
      rcases members with _ | ⟨member, others⟩
      · cases given
        have closing := Cursor.faces_of_rest inside isBlank (by decide)
        simp only [Cursor.next?_eq closing]
        exact ⟨_, rfl, Cursor.rest_advance closing⟩
      · rw [List.map_cons, separated_cons_append] at inside
        have facesMember := Cursor.faces_member isBlank inside areMembers
        simp only [Cursor.next?_eq facesMember]
        apply fits.gives_members areMembers given distinct (by simp) _ facesMember
        have counted := length_le_trailing (others.map Member.text) '\x7d' rest
        rw [List.length_map] at counted
        rw [facesMember]
        simp only [Member.onward, List.length_cons, List.length_append]
        omega
  · cases isList with
    | @items blank items entries isBlank framed spelled leading =>
      have inside : cursor.skipSpace.advance.rest =
          blank ++ (separated (items.map Item.text) ++ ']' :: rest) := by
        simpa [listText] using Cursor.rest_advance faces
      rw [Schema.read, valueStart_eq faces]
      exact fits.gives_list (fits.areItems framed spelled) spelled leading isBlank inside

end Format.Fits

/-! ## What a record that is read has been given -/

namespace Schema

/-- The value of a field has been read. -/
def WasRead (schema : Schema Record) (name : String) (value : List Char) : Prop :=
  ∃ field ∈ schema.fields, field.name = name ∧ ∃ record cursor rest result, Ends rest ∧
    cursor.Faces (value ++ rest) ∧ field.assign record cursor = .ok result

/-- Each field leaves what stands behind its value. -/
def SparesAll (schema : Schema Record) : Prop :=
  ∀ field ∈ schema.fields, ∀ record, Spares (field.assign record)

variable {schema : Schema Record} {seen later : List String} {record result : Record}
  {cursor behind : Cursor} {rest : List Char} {bound : Nat} {member : Member}
  {others : List Member} {key : String}

theorem memberValue_eq_ok (read : schema.memberValue seen record key cursor =
      .ok (later, result, behind)) :
    (∃ field colon, schema.fields.find? (fun field => decide (field.name = key)) = some field ∧
      key ∉ seen ∧ later = key :: seen ∧ cursor.colon = .ok colon ∧
        field.assign record colon = .ok (result, behind)) ∨
    (∃ colon, schema.fields.find? (fun field => decide (field.name = key)) = none ∧
      later = seen ∧ cursor.colon = .ok colon ∧ colon.skipValue = .ok behind) := by
  unfold memberValue at read
  split at read
  case h_1 field found =>
    split at read
    case isTrue => simp at read
    case isFalse unseen =>
      rcases colon : cursor.colon with fault | next
      · simp [colon, bind, Except.bind] at read
      rcases assigned : field.assign record next with fault | ⟨given, left⟩
      · simp [colon, assigned, bind, Except.bind] at read
      simp only [colon, assigned, bind, Except.bind, pure, Except.pure, Except.ok.injEq,
        Prod.mk.injEq] at read
      rcases read with ⟨rfl, rfl, rfl⟩
      exact .inl ⟨field, next, found, unseen, rfl, rfl, assigned⟩
  case h_2 missing =>
    rcases colon : cursor.colon with fault | next
    · simp [colon, bind, Except.bind] at read
    rcases skipped : next.skipValue with fault | left
    · simp [colon, skipped, bind, Except.bind] at read
    simp only [colon, skipped, bind, Except.bind, pure, Except.pure, Except.ok.injEq,
      Prod.mk.injEq] at read
    rcases read with ⟨rfl, _, rfl⟩
    exact .inr ⟨next, missing, rfl, rfl, skipped⟩

theorem exists_memberEnd_of_ok (spares : schema.SparesAll)
    (areMembers : AreMembers (member :: others))
    (stands : cursor.rest = member.onward others rest)
    (read : schema.members (bound + 1) seen record cursor = .ok (result, behind)) :
    ∃ later given next, schema.memberEnd bound later given next = .ok (result, behind) ∧
      next.rest = member.item.behind ++ trailing (others.map Member.text) '\x7d' rest ∧
      seen ⊆ later ∧ ∀ field ∈ schema.fields, Spells member.key field.name.toList →
        field.name ∉ seen ∧ field.name ∈ later ∧ schema.WasRead field.name member.item.value := by
  have ends := ends_trailing (areMembers.framed member (by simp)).item.2 (others.map Member.text)
    (by simp : '\x7d' ∈ _) rest
  have body := Cursor.rest_advance stands
  rw [members_succ] at read
  rcases named : cursor.advance.stringBody with fault | ⟨key, colon⟩
  · simp [named, bind, Except.bind] at read
  rcases value : schema.memberValue seen record key colon with fault | ⟨later, given, next⟩
  · simp [named, value, bind, Except.bind] at read
  simp only [named, value, bind, Except.bind] at read
  have eq_key {name : String} (spells : Spells member.key name.toList) : name = key := by
    rcases gives_stringBody spells body with ⟨_, isName, _⟩
    rw [named, String.ofList_toList] at isName
    simp only [Except.ok.injEq, Prod.mk.injEq] at isName
    exact isName.1.symm
  have left := rest_of_stringBody (areMembers.keys member (by simp)) body named
  rcases member.exists_faces_value areMembers left with ⟨start, readColon, faces⟩
  refine ⟨later, given, next, read, ?_⟩
  rcases memberValue_eq_ok value with ⟨field, other, found, unseen, rfl, isColon, assigned⟩ |
    ⟨other, missing, rfl, isColon, skipped⟩
  · obtain rfl : start = other := by simpa [readColon] using isColon
    have isField := List.mem_of_find?_eq_some found
    have isKey : field.name = key := by simpa using List.find?_some found
    refine ⟨spares field isField record _ _ _ _ _ (areMembers.values member (by simp)) ends faces
      assigned, by simp, ?_⟩
    intro other isOther spells
    have same := eq_key spells
    rw [same]
    exact ⟨unseen, by simp, field, isField, isKey, record, start, _, _, ends, faces, assigned⟩
  · obtain rfl : start = other := by simpa [readColon] using isColon
    have stops := Cursor.stops_skipValue (areMembers.values member (by simp)) ends faces
    rw [skipped, stops_ok_iff] at stops
    refine ⟨stops, by simp, ?_⟩
    intro field isField spells
    have noField := List.find?_eq_none.mp missing field isField
    simp [eq_key spells] at noField

/-- If `members` reads an object, no field has been given twice, and what stands behind the object
is left. -/
theorem of_members_eq_ok (spares : schema.SparesAll) (areMembers : AreMembers (member :: others))
    (stands : cursor.rest = member.onward others rest)
    (read : schema.members bound seen record cursor = .ok (result, behind)) :
    behind.rest = rest ∧
      (∀ given ∈ member :: others, ∀ field ∈ schema.fields, Spells given.key field.name.toList →
        field.name ∉ seen ∧ schema.WasRead field.name given.item.value) ∧
      (member :: others).Pairwise fun first second => ∀ field ∈ schema.fields,
        Spells first.key field.name.toList → ¬ Spells second.key field.name.toList := by
  induction others generalizing member seen record cursor bound with
  | nil =>
    rcases bound with _ | bound
    · simp [members] at read
    rcases exists_memberEnd_of_ok spares areMembers stands read with
      ⟨later, given, next, ended, left, _, fields⟩
    rcases gives_memberEnd (areMembers.framed member (by simp)).item.2 left with
      ⟨_, isEnd, stands⟩
    rw [ended] at isEnd
    simp only [Except.ok.injEq, Prod.mk.injEq] at isEnd
    refine ⟨by rw [isEnd.2, stands], ?_, by simp⟩
    intro only isOnly field isField spells
    rw [List.mem_singleton] at isOnly
    subst isOnly
    exact ⟨(fields field isField spells).1, (fields field isField spells).2.2⟩
  | cons second others ih =>
    rcases bound with _ | bound
    · simp [members] at read
    rcases exists_memberEnd_of_ok spares areMembers stands read with
      ⟨later, given, next, ended, left, grows, fields⟩
    rcases exists_memberEnd_eq (areMembers.framed member (by simp)).item.2 areMembers.tail left with
      ⟨further, continues, stands⟩
    rw [continues] at ended
    rcases ih areMembers.tail stands ended with ⟨left, given, apart⟩
    refine ⟨left, ?_, List.pairwise_cons.mpr ⟨?_, apart⟩⟩
    · rw [List.forall_mem_cons]
      refine ⟨fun field isField spells => ?_, fun other isOther field isField spells => ?_⟩
      · exact ⟨(fields field isField spells).1, (fields field isField spells).2.2⟩
      · have later := given other isOther field isField spells
        exact ⟨fun isSeen => later.1 (grows isSeen), later.2⟩
    · intro other isOther field isField spells again
      exact (given other isOther field isField again).1 (fields field isField spells).2.1

theorem of_read_object_eq_ok (spares : schema.SparesAll) {members : List Member} {blank : List Char}
    (isBlank : IsBlank blank) (areMembers : AreMembers members)
    (faces : cursor.Faces (objectText blank members ++ rest))
    (read : schema.read record cursor = .ok (result, behind)) :
    behind.rest = rest ∧
      (∀ given ∈ members, ∀ field ∈ schema.fields, Spells given.key field.name.toList →
        schema.WasRead field.name given.item.value) ∧
      members.Pairwise fun first second => ∀ field ∈ schema.fields,
        Spells first.key field.name.toList → ¬ Spells second.key field.name.toList := by
  have inside : cursor.skipSpace.advance.rest =
      blank ++ (separated (members.map Member.text) ++ '\x7d' :: rest) := by
    simpa [objectText] using Cursor.rest_advance faces
  rw [Schema.read, valueStart_eq faces] at read
  simp only [bind, Except.bind] at read
  rcases members with _ | ⟨member, others⟩
  · have closing := Cursor.faces_of_rest inside isBlank (by decide)
    simp only [Cursor.next?_eq closing, Except.ok.injEq, Prod.mk.injEq] at read
    exact ⟨by rw [← read.2, Cursor.rest_advance closing], by simp, by simp⟩
  · rw [List.map_cons, separated_cons_append] at inside
    have facesMember := Cursor.faces_member isBlank inside areMembers
    simp only [Cursor.next?_eq facesMember] at read
    rcases of_members_eq_ok spares areMembers facesMember read with ⟨left, given, apart⟩
    exact ⟨left, fun given' isGiven field isField spells =>
      (given given' isGiven field isField spells).2, apart⟩

theorem listEnd_eq_error {first : Char} (next : cursor.skipSpace.next? = some first)
    (noEnd : first ≠ ']') : ∃ fault, listEnd cursor = .error fault := by
  simp only [listEnd, next]
  split
  case h_1 isEnd => exact absurd (Option.some.inj isEnd) noEnd
  case h_2 => split <;> exact ⟨_, rfl⟩
  case h_3 => exact ⟨_, rfl⟩
  case h_4 isNone => simp at isNone

theorem exists_items_of_ok (spares : schema.SparesAll) {field : SchemaField Record}
    (isField : field ∈ schema.fields) {fields : List (SchemaField Record)} {item : Item}
    {others : List Item} (areItems : AreItems (item :: others))
    (faces : cursor.Faces (item.onward others rest))
    (read : (field.assign record cursor >>= fun (record, cursor) =>
      items fields false record cursor) = .ok (result, behind)) :
    schema.WasRead field.name item.value ∧ ∃ given next,
      items fields false given next = .ok (result, behind) ∧
        next.rest = item.behind ++ trailing (others.map Item.text) ']' rest := by
  have isFramed := areItems.framed item (by simp)
  have ends := ends_trailing isFramed.2 (others.map Item.text) (by simp : ']' ∈ _) rest
  rcases assigned : field.assign record cursor with fault | ⟨given, next⟩
  · simp [assigned, bind, Except.bind] at read
  simp only [assigned, bind, Except.bind] at read
  exact ⟨⟨field, isField, rfl, record, cursor, _, _, ends, faces, assigned⟩, given, next, read,
    spares field isField record _ _ _ _ _ (areItems.values item (by simp)) ends faces assigned⟩

/-- The items of a list have been read for the fields at the same places. -/
def WereRead (schema : Schema Record) (fields : List (SchemaField Record)) (listed : List Item) :
    Prop :=
  ∀ (index : Nat) (item : Item) (field : SchemaField Record), listed[index]? = some item →
    fields[index]? = some field → schema.WasRead field.name item.value

theorem WereRead.cons {field : SchemaField Record} {fields : List (SchemaField Record)}
    {item : Item} {listed : List Item} (first : schema.WasRead field.name item.value)
    (others : schema.WereRead fields listed) :
    schema.WereRead (field :: fields) (item :: listed) := by
  intro index other found isOther isFound
  rcases index with _ | index
  · obtain rfl : item = other := by simpa using isOther
    obtain rfl : field = found := by simpa using isFound
    exact first
  · exact others index other found (by simpa using isOther) (by simpa using isFound)

theorem of_items_eq_ok (spares : schema.SparesAll) {fields : List (SchemaField Record)}
    (isPart : fields ⊆ schema.fields) {listed : List Item} (areItems : AreItems listed)
    {blank : List Char} (isBlank : IsBlank blank)
    (stands : cursor.rest = blank ++ trailing (listed.map Item.text) ']' rest)
    (read : items fields false record cursor = .ok (result, behind)) :
    behind.rest = rest ∧ schema.WereRead fields listed := by
  induction listed generalizing fields record cursor blank with
  | nil =>
    rcases gives_items_nil false (Cursor.faces_of_rest stands isBlank (by decide)) with
      ⟨_, isEnd, stands⟩
    rw [read] at isEnd
    simp only [Except.ok.injEq, Prod.mk.injEq] at isEnd
    exact ⟨by rw [isEnd.2, stands], by simp [WereRead]⟩
  | cons item others ih =>
    rw [List.map_cons, trailing_cons] at stands
    have comma := Cursor.faces_of_rest stands isBlank (by decide)
    rcases fields with _ | ⟨field, fields⟩
    · rcases listEnd_eq_error (Cursor.next?_eq comma) (by decide) with ⟨fault, refused⟩
      simp [items, refused, bind, Except.bind] at read
    have faces := Cursor.faces_item isBlank_nil (Cursor.rest_advance comma) areItems
    rcases (areItems.values item (by simp)).exists_head with ⟨first, text, isText, _, noEnd, _⟩
    have next : cursor.skipSpace.advance.skipSpace.next? = some first := by
      rw [Item.onward, isText] at faces
      exact Cursor.next?_eq faces
    have noBracket : ',' ≠ ']' := by decide
    simp only [items, Cursor.next?_eq comma, noBracket, if_false, next, if_true] at read
    rcases exists_items_of_ok spares (isPart (by simp)) areItems faces.skipSpace read with
      ⟨wasRead, given, behindItem, read, stands⟩
    rcases ih (List.subset_of_cons_subset isPart) areItems.tail
      (areItems.framed item (by simp)).2 stands read with ⟨left, wereRead⟩
    exact ⟨left, .cons wasRead wereRead⟩

theorem of_read_list_eq_ok (spares : schema.SparesAll) {listed : List Item} {blank : List Char}
    (isBlank : IsBlank blank) (areItems : AreItems listed)
    (faces : cursor.Faces (listText blank listed ++ rest))
    (read : schema.read record cursor = .ok (result, behind)) :
    behind.rest = rest ∧ schema.WereRead schema.fields listed := by
  have inside : cursor.skipSpace.advance.rest =
      blank ++ (separated (listed.map Item.text) ++ ']' :: rest) := by
    simpa [listText] using Cursor.rest_advance faces
  rw [Schema.read, valueStart_eq faces] at read
  have read : items schema.fields true record cursor.skipSpace.advance = .ok (result, behind) :=
    read
  rcases listed with _ | ⟨item, others⟩
  · rcases gives_items_nil true (Cursor.faces_of_rest inside isBlank (by decide)) with
      ⟨_, isEnd, stands⟩
    rw [read] at isEnd
    simp only [Except.ok.injEq, Prod.mk.injEq] at isEnd
    exact ⟨by rw [isEnd.2, stands], by simp [WereRead]⟩
  rw [List.map_cons, separated_cons_append] at inside
  have faces := Cursor.faces_item isBlank inside areItems
  rcases (areItems.values item (by simp)).exists_head with ⟨first, text, isText, _, noEnd, _⟩
  have next : cursor.skipSpace.advance.skipSpace.next? = some first := by
    rw [Item.onward, isText] at faces
    exact Cursor.next?_eq faces
  rcases fields : schema.fields with _ | ⟨field, fields⟩
  · rcases listEnd_eq_error next noEnd with ⟨fault, refused⟩
    simp [fields, items, refused, bind, Except.bind] at read
  simp only [fields, items, next, noEnd, if_false, if_true] at read
  rcases exists_items_of_ok spares (by simp [fields]) areItems faces.skipSpace read with
    ⟨wasRead, given, behindItem, read, stands⟩
  rcases of_items_eq_ok spares (by simp [fields]) areItems.tail (areItems.framed item (by simp)).2
    stands read with ⟨left, wereRead⟩
  exact ⟨left, .cons wasRead wereRead⟩

theorem spares_read (spares : schema.SparesAll) (record : Record) :
    Spares (schema.read record) := by
  intro cursor behind text rest value isValue ends faces read
  rcases isValue.exists_head with ⟨first, others, rfl, _⟩
  have whole := read
  rw [Schema.read, valueStart_eq faces] at read
  simp only [bind, Except.bind] at read
  split at read
  case h_1 =>
    rcases isValue.exists_object with ⟨blank, members, isText, isBlank, areMembers⟩
    rw [isText] at faces
    exact (of_read_object_eq_ok spares isBlank areMembers faces whole).1
  case h_2 =>
    rcases isValue.exists_list with ⟨blank, listed, isText, isBlank, areItems⟩
    rw [isText] at faces
    exact (of_read_list_eq_ok spares isBlank areItems faces whole).1
  case h_3 => simp at read

/-- An object that `Repeats` a field is not read. -/
theorem ne_ok_of_repeats (spares : schema.SparesAll) {text : List Char}
    (repeats : Repeats (schema.fields.map SchemaField.name) text)
    (faces : cursor.Faces (text ++ rest)) : schema.read record cursor ≠ .ok (result, behind) := by
  intro read
  cases repeats with
  | @members blank members first second name isBlank areMembers twice isName spells again =>
    rcases List.mem_map.mp isName with ⟨field, isField, rfl⟩
    have apart := (of_read_object_eq_ok spares isBlank areMembers faces read).2.2
    have pair := apart.sublist twice
    simp only [List.pairwise_cons, List.mem_singleton, forall_eq] at pair
    exact pair.1 field isField spells again

/-- What a text `Assigns` to a field has been read if the text has. -/
theorem wasRead_of_assigns (spares : schema.SparesAll) {text value : List Char} {name : String}
    (assigns : Assigns (schema.fields.map SchemaField.name) name value text)
    (isName : name ∈ schema.fields.map SchemaField.name) (faces : cursor.Faces (text ++ rest))
    (read : schema.read record cursor = .ok (result, behind)) : schema.WasRead name value := by
  cases assigns with
  | @member blank members member isBlank areMembers isMember spells isValue =>
    rcases List.mem_map.mp isName with ⟨field, isField, rfl⟩
    have given := (of_read_object_eq_ok spares isBlank areMembers faces read).2.1
    rw [← isValue]
    exact given member isMember field isField spells
  | @item blank listed item index isBlank areItems isItem isAt isValue =>
    rw [List.getElem?_map, Option.map_eq_some_iff] at isAt
    rcases isAt with ⟨field, isField, rfl⟩
    rw [← isValue]
    exact (of_read_list_eq_ok spares isBlank areItems faces read).2 index item field isItem isField

end Schema

/-! ## Whole texts -/

/-- A text that holds a value with blanks around it. -/
structure Item.Fills (item : Item) (text : String) : Prop where
  isText : text.toList = item.text
  framed : item.IsFramed

section Whole

variable {Value : Type} {reader : Cursor → Except Fault (Value × Cursor)} {item : Item}
  {text : String}

theorem Item.Fills.faces_start (fills : item.Fills text) (isValue : IsValue item.value) :
    (Cursor.start text).Faces (item.value ++ item.behind) := by
  have isText := fills.isText
  rw [Item.text, List.append_assoc] at isText
  exact Cursor.faces_value isText fills.framed.1 isValue

theorem next?_skipSpace_of_isBlank {cursor : Cursor} (isBlank : IsBlank cursor.rest) :
    cursor.skipSpace.next? = none := by
  have spaces : ∀ character ∈ cursor.rest, Cursor.isSpace character = true :=
    fun character member => isSpace_of_mem_blanks (isBlank member)
  have nothing : cursor.skipSpace.rest = [] := by
    rw [Cursor.rest_skipSpace, List.dropWhile_eq_nil_iff]
    exact spaces
  simp [Cursor.next?, nothing]

theorem readText_eq_ok {value : Value} (fills : item.Fills text) (isValue : IsValue item.value)
    (gives : ∀ cursor : Cursor, cursor.Faces (item.value ++ item.behind) →
      Gives (reader cursor) value item.behind) : readText reader text = .ok value := by
  rcases gives _ (fills.faces_start isValue) with ⟨behind, read, left⟩
  have ended := next?_skipSpace_of_isBlank (left.symm ▸ fills.framed.2 : IsBlank behind.rest)
  simp only [readText, read, bind, Except.bind, ended]

theorem readText_eq_error (fills : item.Fills text) (isValue : IsValue item.value)
    (refuses : ∀ cursor value behind, cursor.Faces (item.value ++ item.behind) →
      reader cursor ≠ .ok (value, behind)) : ∃ fault, readText reader text = .error fault := by
  rcases read : reader (Cursor.start text) with fault | ⟨value, behind⟩
  · exact ⟨fault, by simp only [readText, read, bind, Except.bind]⟩
  · exact absurd read (refuses _ _ _ (fills.faces_start isValue))

end Whole

end MailSpool.Json
