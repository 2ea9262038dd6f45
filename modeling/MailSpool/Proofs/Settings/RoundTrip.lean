import MailSpool.Proofs.Dotlock.OwnerRecords
import MailSpool.Proofs.FileSystem.Overwriting
import MailSpool.Proofs.Settings.Overlay
import MailSpool.Proofs.Settings.Validity
import MailSpool.Settings.Load

/-!
# Settings that are written and read back

Settings are written as an object that gives each of them once, so whoever reads the text finds the
same settings, whatever characters stand in the path of the spool. A file to which they are written
is found with that text, so by `load_of_overwrite` they are loaded from it as they are, or refused
for the first rule that they break.
-/

namespace MailSpool

open Json FileSystem

/-! ## Values as they are written -/

namespace Json

theorem writesUnit_control : ∀ code < 0x20,
    WritesUnit ['0', '0', Nat.digitChar (code / 16), Nat.digitChar (code % 16)] code := by
  intro code small
  have digit : ∀ value < 16, (Nat.digitChar value, value) ∈ hexadecimalDigits := by decide
  have writes := WritesUnit.digits (digit 0 (by decide)) (digit 0 (by decide))
    (digit (code / 16) (by omega)) (digit (code % 16) (by omega))
  have sum : ((0 * 16 + 0) * 16 + code / 16) * 16 + code % 16 = code := by omega
  rwa [sum] at writes

theorem Spells.written {text characters : List Char} (character : Char)
    (others : Spells text characters) :
    Spells (Value.writtenCharacter character ++ text) (character :: characters) := by
  unfold Value.writtenCharacter
  split
  case h_8 _ noQuote noBackslash _ _ _ _ _ =>
    split
    case isTrue control =>
      have unit := Spells.unit (writesUnit_control _ control)
        (by unfold IsSurrogate; omega) others
      rwa [Char.ofNat_toNat] at unit
    case isFalse visible =>
      exact .plain ⟨Nat.not_lt.mp visible, noQuote, noBackslash⟩ others
  all_goals exact .short (by decide) others

theorem spells_written (characters : List Char) :
    Spells (characters.flatMap Value.writtenCharacter) characters := by
  induction characters with
  | nil => exact .nil
  | cons character others ih => exact ih.written character

namespace Value

theorem characters_boolean (value : Bool) : (boolean value).characters = booleanText value := by
  cases value <;> simp [characters, booleanText]

theorem characters_whole (value : Int) : (whole value).characters = wholeText value := by
  simp [characters, wholeText]

/-- A member of an object as it is written, with no blanks. -/
def writtenMember (member : String × Value) : Member :=
  ⟨[], member.1.toList.flatMap writtenCharacter, [], [], member.2.characters, []⟩

theorem isFramed_writtenMember (member : String × Value) : (writtenMember member).IsFramed :=
  ⟨isBlank_nil, isBlank_nil, isBlank_nil, isBlank_nil⟩

theorem memberCharacters_append (others : List (String × Value)) :
    memberCharacters false others ++ ['\x7d'] =
      trailing ((others.map writtenMember).map Member.text) '\x7d' [] := by
  induction others with
  | nil => rfl
  | cons second others ih =>
    rw [List.map_cons, List.map_cons, trailing_cons, ← ih]
    simp [memberCharacters, writtenString, writtenMember, Member.text, Item.text]

theorem characters_object (members : List (String × Value)) :
    (object members).characters = objectText [] (members.map writtenMember) := by
  cases members with
  | nil => rfl
  | cons first others =>
    have behind := memberCharacters_append others
    have joined := separated_cons_append (writtenMember first).text
      ((others.map writtenMember).map Member.text) '\x7d' []
    rw [← behind] at joined
    rw [objectText, List.map_cons, List.map_cons, List.cons_append, List.nil_append,
      List.cons_append, joined]
    simp [characters, memberCharacters, writtenString, writtenMember, Member.text, Item.text]

end Value

/-- An object that is written with a member for each of some entries gives these entries, by
`IsObject`. -/
theorem Format.isObject_written {Record Entry : Type} {format : Format Record Entry}
    {members : List (String × Value)} {entries : List Entry}
    (spelled : List.Forall₂ (fun member entry =>
      member.1 = format.name entry ∧ format.IsSpelled entry member.2.characters) members entries)
    (distinct : (entries.map format.name).Nodup) :
    format.IsObject (Value.object members).characters entries := by
  rw [Value.characters_object]
  refine .members isBlank_nil ?_ ?_ distinct
  · intro member isMember
    rcases List.mem_map.mp isMember with ⟨_, _, rfl⟩
    exact Value.isFramed_writtenMember _
  · clear distinct
    induction spelled with
    | nil => exact .nil
    | cons first _ ih => exact .field (first.1 ▸ spells_written _) first.2 ih

end Json

/-! ## Settings as they are written -/

/-- All mail settings, in their usual order. -/
def MailSettings.given (settings : MailSettings) : List MailSetting :=
  [.spoolDirectory settings.spoolDirectory, .honorMail settings.honorMail,
    .retryStep settings.retryStep, .retryLimit settings.retryLimit,
    .staleAfter settings.staleAfter, .checkOwner settings.checkOwner,
    .refreshInterval settings.refreshInterval]

theorem MailSettings.isObject_toValue (settings : MailSettings) :
    MailSetting.format.IsObject settings.toValue.characters settings.given := by
  refine Format.isObject_written ?_ (by simp [given, MailSetting.format, MailSetting.name])
  have path : MailSetting.IsSpelled (.spoolDirectory settings.spoolDirectory)
      (Value.string settings.spoolDirectory).characters :=
    ⟨_, spells_written _, by simp [Value.characters, Value.writtenString]⟩
  exact .cons ⟨rfl, path⟩ (.cons ⟨rfl, Value.characters_boolean _⟩
    (.cons ⟨rfl, Value.characters_whole _⟩ (.cons ⟨rfl, Value.characters_whole _⟩
    (.cons ⟨rfl, Value.characters_whole _⟩ (.cons ⟨rfl, Value.characters_boolean _⟩
    (.cons ⟨rfl, Value.characters_whole _⟩ .nil))))))

namespace Settings

/-- All settings, in their usual order. -/
def given (settings : Settings) : List SettingsEntry :=
  [.descriptorOffset settings.descriptorOffset, .preciseAccessTime settings.preciseAccessTime,
    .mail settings.mail.given]

theorem isObject_toValue (settings : Settings) :
    SettingsEntry.format.IsObject settings.toValue.characters settings.given := by
  refine Format.isObject_written ?_ (by simp [given, SettingsEntry.format, SettingsEntry.name])
  exact .cons ⟨rfl, Value.characters_whole _⟩ (.cons ⟨rfl, Value.characters_boolean _⟩
    (.cons ⟨rfl, .inl settings.mail.isObject_toValue⟩ .nil))

/-- Where all settings are given, none of the usual ones is left. -/
theorem overlaid_given (settings : Settings) :
    overlaid (settings.given.flatMap SettingsEntry.settings) = settings := by
  simp [overlaid, given, MailSettings.given, SettingsEntry.settings, Setting.put, MailSetting.put]

/-- `ofText` finds the same settings in what `render` writes. -/
theorem ofText_render (settings : Settings) : ofText settings.render = .ok settings := by
  have fills : (⟨[], settings.toValue.characters, []⟩ : Item).Fills settings.render :=
    ⟨by simp [render, Value.render, Item.text], isBlank_nil, isBlank_nil⟩
  have read := ofText_of_isGivenBy ⟨_, _, fills, .inl settings.isObject_toValue, rfl⟩
  rwa [overlaid_given] at read

/-! ## Settings in a file -/

variable {host written : Host} {writer reader process : ProcessId} {path : String}
  {settings : Settings}

/-- `read` finds what `overwrite` has written. -/
theorem read_of_overwrite {content : ByteArray} (sound : host.files.Sound)
    (overwritten : host.overwrite writer path content = .ok written) :
    (written.read reader path).1 = .ok content := by
  unfold Host.overwrite at overwritten
  rcases map_eq_ok_iff.mp overwritten with ⟨⟨id, files⟩, called, rfl⟩
  rcases Host.calling_eq_ok_iff.mp called with ⟨writable, changed⟩
  rcases find_of_overwrite sound changed with ⟨file, found, regular⟩
  have looked : Host.calling [path] (files.stat path) = .ok (id, file) :=
    Host.calling_eq_ok_iff.mpr ⟨writable, found⟩
  simp [Host.read, Host.loseLock, Host.withFiles, looked, regular]

theorem ofContent_render (settings : Settings) (path : String) :
    ofContent path (.ok settings.render.toUTF8) = settings.validate := by
  simp only [ofContent, fromUTF8?_toUTF8, ofText_render]

/-- Settings that were written to a file by `render` are loaded from it as they are, or refused as
`validate` would refuse them without the file; and whatever `load` finds in any file keeps all
rules. -/
theorem load_of_overwrite :
    (∀ (host written : Host) (writer reader : ProcessId) (path : String) (settings : Settings),
      host.files.Sound →
      host.overwrite writer path settings.render.toUTF8 = .ok written →
      (load written reader path).1 = settings.validate) ∧
    ∀ (host : Host) (process : ProcessId) (path : String) (settings : Settings),
      (load host process path).1 = .ok settings →
      settings.validate = .ok settings ∧ 0 ≤ settings.descriptorOffset ∧ settings.mail.Obeys := by
  constructor
  · intro host written writer reader path settings sound overwritten
    have read : (written.read reader path).1 = _ := read_of_overwrite sound overwritten
    simp only [load, read, ofContent_render]
  · intro host process path settings loaded
    have valid : settings.Valid := valid_of_ofContent loaded
    exact ⟨validate_eq_ok_iff.mpr ⟨valid, rfl⟩, valid_iff.mp valid⟩

/-! ### A path with all kinds of characters -/

/-- Valid settings at the limits of their ranges, with characters in the path that are escaped. -/
def strangeSettings : Settings where
  descriptorOffset := 2147483647
  mail := {
    spoolDirectory := "/\"\\\n\x01é"
    retryLimit := 18446744073709551615
    staleAfter := 18446744073709551615
    refreshInterval := 18446744073709551614 }

def relativeSettings : Settings where
  mail := { spoolDirectory := "\t" }

def emptyHost : Host :=
  Host.boot 0 fun number => number

/-- The settings are in a file of their own. -/
def hostWith (settings : Settings) : Host :=
  (emptyHost.overwrite 1 "/c" settings.render.toUTF8).toOption.getD emptyHost

theorem overwrite_emptyHost (settings : Settings) :
    emptyHost.overwrite 1 "/c" settings.render.toUTF8 = .ok (hostWith settings) :=
  rfl

theorem load_of_overwrite_strangeSettings :
    (load (hostWith strangeSettings) 2 "/c").1 = .ok strangeSettings ∧
      (load (hostWith relativeSettings) 2 "/c").1 =
        .error (.settings (.relativeSpool "\t")) ∧
      0 ≤ strangeSettings.descriptorOffset ∧ strangeSettings.mail.Obeys := by
  have sound : emptyHost.files.Sound := sound_empty 0
  have strange := load_of_overwrite.1 _ _ _ 2 _ _ sound (overwrite_emptyHost strangeSettings)
  have relative := load_of_overwrite.1 _ _ _ 2 _ _ sound (overwrite_emptyHost relativeSettings)
  have valid : strangeSettings.validate = .ok strangeSettings := by decide +kernel
  rw [valid] at strange
  exact ⟨strange, relative.trans (by decide +kernel), (load_of_overwrite.2 _ _ _ _ strange).2⟩

end Settings

end MailSpool
