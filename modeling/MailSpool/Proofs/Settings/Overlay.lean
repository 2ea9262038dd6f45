import Mathlib.Data.List.Flatten
import MailSpool.Settings.Text
import MailSpool.Proofs.Json.Records

/-!
# Settings from a text

A text gives some of the settings, and the others keep their usual values. By `ofText_overlays` it
does not matter in which order the settings are given, what else stands among them, and whether the
first of them are given by an object or by a list.
-/

namespace MailSpool

open Json

/-! ## Mail settings -/

/-- A value for one of the mail settings. -/
inductive MailSetting where
  | spoolDirectory (value : String)
  | honorMail (value : Bool)
  | retryStep (value : UInt64)
  | retryLimit (value : UInt64)
  | staleAfter (value : UInt64)
  | checkOwner (value : Bool)
  | refreshInterval (value : UInt64)
  deriving DecidableEq, Repr

namespace MailSetting

def names : List String :=
  ["spool_dir", "honor_mail_env", "retry_step_ms", "retry_max_ms", "stale_after_secs",
    "check_owner_pid", "refresh_interval_secs"]

def name : MailSetting → String
  | spoolDirectory _ => "spool_dir"
  | honorMail _ => "honor_mail_env"
  | retryStep _ => "retry_step_ms"
  | retryLimit _ => "retry_max_ms"
  | staleAfter _ => "stale_after_secs"
  | checkOwner _ => "check_owner_pid"
  | refreshInterval _ => "refresh_interval_secs"

def IsSpelled (setting : MailSetting) (text : List Char) : Prop :=
  match setting with
  | spoolDirectory value => ∃ body, Spells body value.toList ∧ text = '"' :: body ++ ['"']
  | honorMail value | checkOwner value => text = booleanText value
  | retryStep value | retryLimit value | staleAfter value | refreshInterval value =>
    text = wholeText value.toNat

def put (settings : MailSettings) : MailSetting → MailSettings
  | spoolDirectory value => { settings with spoolDirectory := value }
  | honorMail value => { settings with honorMail := value }
  | retryStep value => { settings with retryStep := value }
  | retryLimit value => { settings with retryLimit := value }
  | staleAfter value => { settings with staleAfter := value }
  | checkOwner value => { settings with checkOwner := value }
  | refreshInterval value => { settings with refreshInterval := value }

def format : Format MailSettings MailSetting := ⟨names, name, IsSpelled, put⟩

theorem put_comm (settings : MailSettings) {first second : MailSetting}
    (apart : first.name ≠ second.name) :
    put (put settings first) second = put (put settings second) first := by
  cases first <;> cases second <;> simp_all [put, name]

end MailSetting

namespace MailSettings

theorem gives_field {Record Value : Type} {name : String}
    {reader : Cursor → Except Fault (Value × Cursor)} {put : Record → Value → Record}
    {cursor : Cursor} {value : Value} {rest : List Char} (gives : Gives (reader cursor) value rest)
    (record : Record) :
    Gives ((field name reader put).assign record cursor) (put record value) rest :=
  gives.map (put record)

theorem spares_field {Record Value : Type} (name : String)
    {reader : Cursor → Except Fault (Value × Cursor)} (spares : Json.Spares reader)
    (put : Record → Value → Record) (record : Record) :
    Json.Spares ((field name reader put).assign record) :=
  spares.map (put record)

theorem gives_wholeField {Record : Type} {name : String} {put : Record → UInt64 → Record}
    {cursor : Cursor} {text rest : List Char} {value : UInt64}
    (spelled : text = wholeText value.toNat)
    (ends : Ends rest) (faces : cursor.Faces (text ++ rest)) (record : Record) :
    Gives ((field name Cursor.uint64 put).assign record cursor) (put record value) rest := by
  subst spelled
  exact gives_field (gives_uint64 value ends faces) record

theorem fits_schema : MailSetting.format.Fits schema where
  names := rfl
  distinct := by decide
  isValue := by
    intro setting text spelled
    cases setting with
    | spoolDirectory value =>
      rcases spelled with ⟨body, spells, rfl⟩
      exact .string spells.isWritten
    | honorMail value | checkOwner value =>
      obtain rfl := spelled
      exact isValue_booleanText value
    | retryStep value | retryLimit value | staleAfter value | refreshInterval value =>
      obtain rfl := spelled
      exact .number (isNumber_wholeText _)
  reads := by
    intro setting
    cases setting with
    | spoolDirectory value =>
      refine ⟨_, List.mem_of_getElem? (rfl : schema.fields[0]? = _), rfl, ?_⟩
      intro text rest cursor record spelled ends faces
      rcases spelled with ⟨body, spells, rfl⟩
      have given := gives_string spells "path string" (by simpa using faces)
      rw [String.ofList_toList] at given
      exact gives_field given record
    | honorMail value =>
      refine ⟨_, List.mem_of_getElem? (rfl : schema.fields[1]? = _), rfl, ?_⟩
      intro text rest cursor record spelled ends faces
      obtain rfl := spelled
      exact gives_field (gives_boolean value faces) record
    | retryStep value =>
      refine ⟨_, List.mem_of_getElem? (rfl : schema.fields[2]? = _), rfl, ?_⟩
      exact fun record spelled ends faces => gives_wholeField spelled ends faces record
    | retryLimit value =>
      refine ⟨_, List.mem_of_getElem? (rfl : schema.fields[3]? = _), rfl, ?_⟩
      exact fun record spelled ends faces => gives_wholeField spelled ends faces record
    | staleAfter value =>
      refine ⟨_, List.mem_of_getElem? (rfl : schema.fields[4]? = _), rfl, ?_⟩
      exact fun record spelled ends faces => gives_wholeField spelled ends faces record
    | checkOwner value =>
      refine ⟨_, List.mem_of_getElem? (rfl : schema.fields[5]? = _), rfl, ?_⟩
      intro text rest cursor record spelled ends faces
      obtain rfl := spelled
      exact gives_field (gives_boolean value faces) record
    | refreshInterval value =>
      refine ⟨_, List.mem_of_getElem? (rfl : schema.fields[6]? = _), rfl, ?_⟩
      exact fun record spelled ends faces => gives_wholeField spelled ends faces record

theorem sparesAll_schema : schema.SparesAll := by
  intro field isField record
  simp only [schema, List.mem_cons, List.not_mem_nil, or_false] at isField
  rcases isField with rfl | rfl | rfl | rfl | rfl | rfl | rfl
  · exact spares_field _ (spares_string _) _ record
  · exact spares_field _ spares_boolean _ record
  · exact spares_field _ spares_uint64 _ record
  · exact spares_field _ spares_uint64 _ record
  · exact spares_field _ spares_uint64 _ record
  · exact spares_field _ spares_boolean _ record
  · exact spares_field _ spares_uint64 _ record

end MailSettings

/-! ## Settings -/

/-- What one member of the settings can be given: a value, or some of the mail settings. -/
inductive SettingsEntry where
  | descriptorOffset (value : Int32)
  | preciseAccessTime (value : Bool)
  | mail (given : List MailSetting)

namespace SettingsEntry

def names : List String :=
  ["descriptor_offset", "precise_access_time", "mail"]

def name : SettingsEntry → String
  | descriptorOffset _ => "descriptor_offset"
  | preciseAccessTime _ => "precise_access_time"
  | mail _ => "mail"

def IsSpelled (entry : SettingsEntry) (text : List Char) : Prop :=
  match entry with
  | descriptorOffset value => text = wholeText value.toInt
  | preciseAccessTime value => text = booleanText value
  | mail given => MailSetting.format.IsRecord text given

def put (settings : Settings) : SettingsEntry → Settings
  | descriptorOffset value => { settings with descriptorOffset := value }
  | preciseAccessTime value => { settings with preciseAccessTime := value }
  | mail given => { settings with mail := given.foldl MailSetting.put {} }

def format : Format Settings SettingsEntry := ⟨names, name, IsSpelled, put⟩

end SettingsEntry

namespace Settings

theorem fits_schema : SettingsEntry.format.Fits schema where
  names := rfl
  distinct := by decide
  isValue := by
    intro entry text spelled
    cases entry with
    | descriptorOffset value =>
      obtain rfl := spelled
      exact .number (isNumber_wholeText _)
    | preciseAccessTime value =>
      obtain rfl := spelled
      exact isValue_booleanText value
    | mail given => exact MailSettings.fits_schema.isValue_of_isRecord spelled
  reads := by
    intro entry
    cases entry with
    | descriptorOffset value =>
      refine ⟨_, List.mem_of_getElem? (rfl : schema.fields[0]? = _), rfl, ?_⟩
      intro text rest cursor record spelled ends faces
      obtain rfl := spelled
      exact MailSettings.gives_field (gives_int32 value ends faces) record
    | preciseAccessTime value =>
      refine ⟨_, List.mem_of_getElem? (rfl : schema.fields[1]? = _), rfl, ?_⟩
      intro text rest cursor record spelled ends faces
      obtain rfl := spelled
      exact MailSettings.gives_field (gives_boolean value faces) record
    | mail given =>
      refine ⟨_, List.mem_of_getElem? (rfl : schema.fields[2]? = _), rfl, ?_⟩
      intro text rest cursor record spelled ends faces
      exact MailSettings.gives_field (MailSettings.fits_schema.gives_read spelled faces) record

theorem sparesAll_schema : schema.SparesAll := by
  intro field isField record
  simp only [schema, List.mem_cons, List.not_mem_nil, or_false] at isField
  rcases isField with rfl | rfl | rfl
  · exact MailSettings.spares_field _ spares_int32 _ record
  · exact MailSettings.spares_field _ spares_boolean _ record
  · exact MailSettings.spares_field _
      (Schema.spares_read MailSettings.sparesAll_schema {}) _ record

end Settings

/-! ## Overlays -/

/-- A value for one of the settings. -/
inductive Setting where
  | descriptorOffset (value : Int32)
  | preciseAccessTime (value : Bool)
  | mail (setting : MailSetting)
  deriving DecidableEq, Repr

namespace Setting

/-- The names under which a setting is given, from the outermost one on. -/
def path : Setting → List String
  | descriptorOffset _ => ["descriptor_offset"]
  | preciseAccessTime _ => ["precise_access_time"]
  | mail setting => ["mail", setting.name]

def put (settings : Settings) : Setting → Settings
  | descriptorOffset value => { settings with descriptorOffset := value }
  | preciseAccessTime value => { settings with preciseAccessTime := value }
  | mail setting => { settings with mail := setting.put settings.mail }

theorem put_comm (settings : Settings) {first second : Setting} (apart : first.path ≠ second.path) :
    put (put settings first) second = put (put settings second) first := by
  cases first with
  | mail first =>
    cases second with
    | mail second =>
      have inner : first.name ≠ second.name := by simpa [path] using apart
      simp [put, MailSetting.put_comm settings.mail inner]
    | descriptorOffset | preciseAccessTime => simp [put]
  | descriptorOffset | preciseAccessTime => cases second <;> simp_all [put, path]

theorem foldl_put_mail (settings : Settings) (given : List MailSetting) :
    (given.map mail).foldl put settings =
      { settings with mail := given.foldl MailSetting.put settings.mail } := by
  induction given generalizing settings with
  | nil => rfl
  | cons first others ih => simp [ih, put]

end Setting

namespace SettingsEntry

/-- The single settings that an entry gives. -/
def settings : SettingsEntry → List Setting
  | descriptorOffset value => [.descriptorOffset value]
  | preciseAccessTime value => [.preciseAccessTime value]
  | mail given => given.map .mail

/-- To `put` entries into usual settings is to put there what they give one by one. -/
theorem foldl_put (entries : List SettingsEntry) (settings : Settings)
    (distinct : (entries.map name).Nodup)
    (usual : "mail" ∈ entries.map name → settings.mail = {}) :
    entries.foldl put settings =
      (entries.flatMap SettingsEntry.settings).foldl Setting.put settings := by
  induction entries generalizing settings with
  | nil => rfl
  | cons entry others ih =>
    rw [List.map_cons, List.nodup_cons] at distinct
    rw [List.flatMap_cons, List.foldl_append, List.foldl_cons]
    cases entry with
    | descriptorOffset value =>
      exact ih _ distinct.2 fun named => usual (List.mem_cons_of_mem _ named)
    | preciseAccessTime value =>
      exact ih _ distinct.2 fun named => usual (List.mem_cons_of_mem _ named)
    | mail given =>
      rw [SettingsEntry.settings, Setting.foldl_put_mail, usual List.mem_cons_self]
      exact ih _ distinct.2 fun named => absurd named distinct.1

theorem head?_path {entry : SettingsEntry} {setting : Setting}
    (isGiven : setting ∈ entry.settings) :
    setting.path.head? = some entry.name := by
  cases entry with
  | descriptorOffset value | preciseAccessTime value =>
    obtain rfl := List.mem_singleton.mp isGiven
    rfl
  | mail given =>
    rcases List.mem_map.mp isGiven with ⟨_, _, rfl⟩
    rfl

/-- No setting is given twice. -/
theorem nodup_settings {entries : List SettingsEntry} (distinct : (entries.map name).Nodup)
    (inner : ∀ given, mail given ∈ entries → (given.map MailSetting.name).Nodup) :
    ((entries.flatMap settings).map Setting.path).Nodup := by
  induction entries with
  | nil => simp
  | cons entry others ih =>
    rw [List.map_cons, List.nodup_cons] at distinct
    rw [List.flatMap_cons, List.map_append, List.nodup_append]
    refine ⟨?_, ih distinct.2 fun given member => inner given (List.mem_cons_of_mem _ member), ?_⟩
    · cases entry with
      | descriptorOffset | preciseAccessTime => simp [settings]
      | mail given =>
        have names := inner given List.mem_cons_self
        have paths : (given.map Setting.mail).map Setting.path =
            (given.map MailSetting.name).map fun name => ["mail", name] := by
          simp [Setting.path, Function.comp_def]
        rw [settings, paths]
        exact names.map fun first second same => by simpa using same
    · intro first isFirst second isSecond same
      rcases List.mem_map.mp isFirst with ⟨given, isGiven, rfl⟩
      rcases List.mem_map.mp isSecond with ⟨other, isOther, rfl⟩
      rcases List.mem_flatMap.mp isOther with ⟨further, isFurther, isOther⟩
      have heads := congrArg List.head? same
      rw [head?_path isGiven, head?_path isOther, Option.some.injEq] at heads
      exact distinct.1 (List.mem_map.mpr ⟨further, isFurther, heads.symm⟩)

end SettingsEntry

namespace Settings

/-- The usual settings, with those replaced by `put` that are given. -/
def overlaid (given : List Setting) : Settings :=
  given.foldl Setting.put {}

theorem overlaid_perm {given shuffled : List Setting} (distinct : (given.map Setting.path).Nodup)
    (same : given.Perm shuffled) : overlaid shuffled = overlaid given := by
  refine (same.foldl_eq' ?_ ({} : Settings)).symm
  intro first isFirst second isSecond settings
  by_cases path : first.path = second.path
  · rw [List.inj_on_of_nodup_map distinct isFirst isSecond path]
  · exact Setting.put_comm settings path

/-- A text that gives some settings, as an object by `IsObject` or as a list by `IsList`. -/
def IsGivenBy (text : String) (given : List Setting) : Prop :=
  ∃ (item : Item) (entries : List SettingsEntry), item.Fills text ∧
    SettingsEntry.format.IsRecord item.value entries ∧
      given = entries.flatMap SettingsEntry.settings

theorem ofText_of_isGivenBy {text : String} {given : List Setting}
    (isGiven : IsGivenBy text given) :
    ofText text = .ok (overlaid given) := by
  rcases isGiven with ⟨item, entries, fills, isRecord, rfl⟩
  have distinct := fits_schema.nodup_of_isRecord isRecord
  rw [overlaid, ← SettingsEntry.foldl_put entries {} distinct fun _ => rfl]
  exact readText_eq_ok fills (fits_schema.isValue_of_isRecord isRecord)
    fun cursor faces => fits_schema.gives_read isRecord faces

theorem nodup_of_isGivenBy {text : String} {given : List Setting} (isGiven : IsGivenBy text given) :
    (given.map Setting.path).Nodup := by
  rcases isGiven with ⟨item, entries, _, isRecord, rfl⟩
  apply SettingsEntry.nodup_settings (fits_schema.nodup_of_isRecord isRecord)
  intro given isMail
  rcases isRecord.exists_isSpelled isMail with ⟨value, spelled⟩
  exact MailSettings.fits_schema.nodup_of_isRecord spelled

/-- A value in which a field of the settings, or one of the mail settings, is named twice. -/
inductive RepeatsField (text : List Char) : Prop where
  | settings : Repeats SettingsEntry.names text → RepeatsField text
  | mail {value : List Char} : Assigns SettingsEntry.names "mail" value text →
      Repeats MailSetting.names value → RepeatsField text

theorem isValue_of_repeatsField {text : List Char} (repeats : RepeatsField text) :
    IsValue text := by
  cases repeats with
  | settings repeats =>
    cases repeats with
    | members isBlank areMembers => exact isValue_objectText isBlank areMembers
  | mail assigns =>
    cases assigns with
    | member isBlank areMembers => exact isValue_objectText isBlank areMembers
    | item isBlank areItems => exact isValue_listText isBlank areItems

theorem exists_read_of_wasRead {value : List Char} (wasRead : schema.WasRead "mail" value) :
    ∃ (cursor : Cursor) (rest : List Char) (result : MailSettings) (behind : Cursor),
      cursor.Faces (value ++ rest) ∧ MailSettings.schema.read {} cursor = .ok (result, behind) := by
  rcases wasRead with ⟨field, isField, isMail, record, cursor, rest, ⟨found, left⟩, _, faces,
    assigned⟩
  simp only [schema, List.mem_cons, List.not_mem_nil, or_false] at isField
  rcases isField with rfl | rfl | rfl
  · simp [MailSettings.field] at isMail
  · simp [MailSettings.field] at isMail
  · rcases read : MailSettings.schema.read {} cursor with fault | ⟨result, behind⟩
    · simp [MailSettings.field, read, Except.map] at assigned
    · exact ⟨cursor, rest, result, behind, faces, read⟩

theorem ofText_of_repeatsField {text : String} {item : Item} (fills : item.Fills text)
    (repeats : RepeatsField item.value) : ∃ fault, ofText text = .error fault := by
  apply readText_eq_error fills (isValue_of_repeatsField repeats)
  intro cursor result behind faces read
  cases repeats with
  | settings repeats => exact Schema.ne_ok_of_repeats sparesAll_schema repeats faces read
  | @mail value assigns repeats =>
    have wasRead := Schema.wasRead_of_assigns sparesAll_schema assigns (by decide) faces read
    rcases exists_read_of_wasRead wasRead with ⟨start, rest, result, behind, faces, read⟩
    exact Schema.ne_ok_of_repeats MailSettings.sparesAll_schema repeats faces read

/-- What a text gives by `IsGivenBy` replaces the usual settings as `overlaid` says, whatever order
it is in, whatever else stands in it and whether it is an object or a list. A text that
`RepeatsField` is refused. -/
theorem ofText_overlays :
    (∀ text given, IsGivenBy text given → ofText text = .ok (overlaid given)) ∧
    (∀ text other given shuffled, IsGivenBy text given → IsGivenBy other shuffled →
      given.Perm shuffled → ofText other = ofText text) ∧
    (∀ (text other : String) (object list : Item) (entries : List SettingsEntry),
      object.Fills text → SettingsEntry.format.IsObject object.value entries →
      list.Fills other → SettingsEntry.format.IsList list.value entries →
      ofText other = ofText text) ∧
    ∀ (text : String) (item : Item), item.Fills text → RepeatsField item.value →
      ∃ fault, ofText text = .error fault := by
  refine ⟨fun text given => ofText_of_isGivenBy, ?_, ?_, fun text item => ofText_of_repeatsField⟩
  · intro text other given shuffled isGiven isShuffled same
    rw [ofText_of_isGivenBy isGiven, ofText_of_isGivenBy isShuffled,
      overlaid_perm (nodup_of_isGivenBy isGiven) same]
  · intro text other object list entries fillsObject isObject fillsList isList
    rw [ofText_of_isGivenBy ⟨object, entries, fillsObject, .inl isObject, rfl⟩,
      ofText_of_isGivenBy ⟨list, entries, fillsList, .inr isList, rfl⟩]

/-! ### One text in several forms -/

def plainMember (key : String) (value : List Char) : Member :=
  ⟨[], key.toList, [], [], value, []⟩

/-- A member for a mail setting, with a character of its key escaped and blanks around the key. -/
def mailMember : Member :=
  ⟨[' '], ['m', '\\', 'u', '0', '0', '6', '1', 'i', 'l'], ['\t'], [],
    objectText [] [plainMember "retry_step_ms" (wholeText 7)], []⟩

def timeMember : Member :=
  plainMember "precise_access_time" (booleanText true)

def offsetMember : Member :=
  plainMember "descriptor_offset" (wholeText 0)

/-- A member that is no field. -/
def foreignMember : Member :=
  plainMember "x" "null".toList

def objectOf (members : List Member) : Item :=
  ⟨[], objectText [] members, ['\n']⟩

def listOf (values : List (List Char)) : Item :=
  ⟨[], listText [] (values.map fun value => ⟨[], value, []⟩), ['\n']⟩

def textOf (item : Item) : String :=
  String.ofList item.text

theorem fills_textOf (item : Item) (framed : item.IsFramed) : item.Fills (textOf item) :=
  ⟨by simp [textOf], framed⟩

theorem fills_objectOf (members : List Member) :
    (objectOf members).Fills (textOf (objectOf members)) :=
  fills_textOf _ ⟨isBlank_nil, (by decide : IsBlank ['\n'])⟩

@[simp]
theorem isFramed_plainMember (key : String) (value : List Char) :
    (plainMember key value).IsFramed :=
  ⟨isBlank_nil, isBlank_nil, isBlank_nil, isBlank_nil⟩

@[simp]
theorem isFramed_mailMember : mailMember.IsFramed :=
  ⟨by decide, by decide, isBlank_nil, isBlank_nil⟩

@[simp]
theorem isFramed_timeMember : timeMember.IsFramed :=
  isFramed_plainMember _ _

@[simp]
theorem isFramed_offsetMember : offsetMember.IsFramed :=
  isFramed_plainMember _ _

@[simp]
theorem isFramed_foreignMember : foreignMember.IsFramed :=
  isFramed_plainMember _ _

theorem isGiven_mailMember {members : List Member} {entries : List SettingsEntry}
    (others : SettingsEntry.format.IsGiven members entries) :
    SettingsEntry.format.IsGiven (mailMember :: members) (.mail [.retryStep 7] :: entries) := by
  have letter : WritesUnit ['0', '0', '6', '1'] 97 :=
    .digits (by decide : ('0', 0) ∈ _) (by decide : ('0', 0) ∈ _) (by decide : ('6', 6) ∈ _)
      (by decide : ('1', 1) ∈ _)
  refine .field (.plain (by decide) (.unit letter (by decide) (spells_of_isPlain (by decide))))
    (.inl (.members isBlank_nil ?_ (.field (spells_of_isPlain (by decide)) rfl .nil) ?_)) others
  · simp [isFramed_plainMember]
  · simp

theorem isGiven_timeMember {members : List Member} {entries : List SettingsEntry}
    (others : SettingsEntry.format.IsGiven members entries) :
    SettingsEntry.format.IsGiven (timeMember :: members) (.preciseAccessTime true :: entries) :=
  .field (spells_of_isPlain (by decide)) rfl others

theorem isGiven_foreignMember {members : List Member} {entries : List SettingsEntry}
    (others : SettingsEntry.format.IsGiven members entries) :
    SettingsEntry.format.IsGiven (foreignMember :: members) entries :=
  .other (spells_of_isPlain (by decide) : Spells _ "x".toList) (by decide) (.word (by decide))
    others

theorem ofText_overlays_severalForms :
    ofText (textOf (objectOf [mailMember, timeMember])) =
        .ok { preciseAccessTime := true, mail := { retryStep := 7 } } ∧
      ofText (textOf (objectOf [timeMember, foreignMember, mailMember])) =
        ofText (textOf (objectOf [mailMember, timeMember])) ∧
      ofText (textOf (listOf [wholeText 0, booleanText true])) =
        ofText (textOf (objectOf [offsetMember, timeMember])) ∧
      ∃ fault, ofText (textOf (objectOf [timeMember, foreignMember, timeMember])) =
        .error fault := by
  have given : IsGivenBy (textOf (objectOf [mailMember, timeMember]))
      [.mail (.retryStep 7), .preciseAccessTime true] :=
    ⟨_, _, fills_objectOf _, .inl (.members isBlank_nil (by simp)
      (isGiven_mailMember (isGiven_timeMember .nil)) (by decide)), rfl⟩
  have shuffled : IsGivenBy (textOf (objectOf [timeMember, foreignMember, mailMember]))
      [.preciseAccessTime true, .mail (.retryStep 7)] :=
    ⟨_, _, fills_objectOf _, .inl (.members isBlank_nil (by simp)
      (isGiven_timeMember (isGiven_foreignMember (isGiven_mailMember .nil))) (by decide)), rfl⟩
  have object : SettingsEntry.format.IsObject (objectOf [offsetMember, timeMember]).value
      [.descriptorOffset 0, .preciseAccessTime true] :=
    .members isBlank_nil (by simp)
      (.field (spells_of_isPlain (by decide)) rfl (isGiven_timeMember .nil)) (by decide)
  have list : SettingsEntry.format.IsList (listOf [wholeText 0, booleanText true]).value
      [.descriptorOffset 0, .preciseAccessTime true] :=
    .items isBlank_nil (by decide) (.cons rfl (.cons rfl .nil)) (by decide)
  have twice := isGiven_timeMember (isGiven_foreignMember (isGiven_timeMember .nil))
  have repeated : RepeatsField (objectOf [timeMember, foreignMember, timeMember]).value :=
    .settings (.members isBlank_nil (fits_schema.areMembers (by simp) twice)
      (.cons_cons timeMember (.cons foreignMember (.refl [timeMember])))
      (by decide : "precise_access_time" ∈ _) (spells_of_isPlain (by decide))
      (spells_of_isPlain (by decide)))
  have overlays := ofText_overlays
  exact ⟨overlays.1 _ _ given, overlays.2.1 _ _ _ _ given shuffled (.swap _ _ _),
    overlays.2.2.1 _ _ _ _ _ (fills_objectOf _) object (fills_textOf _ (by decide)) list,
    overlays.2.2.2 _ _ (fills_objectOf _) repeated⟩

/-! ### A key that is no string -/

/-- A member whose key is half of a surrogate pair. -/
def halfPairMember : Member :=
  plainMember "\\ud800" "1".toList

/-- An object whose only key `Spells` nothing, let alone the name of a field, is refused. -/
theorem not_read_halfPairMember :
    AreMembers [halfPairMember] ∧ (∀ name : String, ¬ Spells halfPairMember.key name.toList) ∧
      ofText (textOf (objectOf [halfPairMember])) = .error ⟨.surrogateCutShort, ⟨1, 9⟩⟩ := by
  have unit : WritesUnit ['d', '8', '0', '0'] 0xD800 :=
    .digits (by decide : ('d', 13) ∈ _) (by decide : ('8', 8) ∈ _) (by decide : ('0', 0) ∈ _)
      (by decide : ('0', 0) ∈ _)
  have isNumber : IsNumber "1".toList := isNumber_wholeText 1
  refine ⟨⟨by simp [halfPairMember], ?_, ?_⟩, ?_, by decide +kernel⟩
  · rw [List.forall_mem_singleton]
    exact .unit unit .nil
  · rw [List.forall_mem_singleton]
    exact .number isNumber
  · intro name spells
    rcases gives_stringCharacters spells Location.start with ⟨behind, read, _⟩
    have refused : (stringCharacters none (halfPairMember.key ++ ['"']) Location.start).isOk =
        false := by decide
    rw [read] at refused
    simp [Except.isOk, Except.toBool] at refused

end Settings

end MailSpool
