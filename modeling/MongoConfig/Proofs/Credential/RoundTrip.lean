import MongoConfig.Credential.Reader
import MongoConfig.Credential.Writer
import MongoConfig.Proofs.Dictionary
import MongoConfig.Proofs.Text.Percent
/-! Reading the text of a credential gives the credential back.
The last `@` of the text is the one after the password, because an escaped part holds none and the
parts behind it hold none either. Options may be written in any order: no two of them set the same
thing.
-/

namespace MongoConfig.Credential

/-- The credentials that can be made for a user, by properties added one at a time. -/
inductive Built : Credential → Prop where
  | negotiated (user source password : String) : Built (negotiated user source password)
  | plain (user source password : String) : Built (plain user source password)
  | scramSha1 (user source password : String) : Built (scramSha1 user source password)
  | scramSha256 (user source password : String) : Built (scramSha256 user source password)
  | gssapi (user : String) : Built (gssapi user)
  | x509 (user : String) : Built (x509 (some user))
  | withProperty {credential : Credential} (key value : String)
      : Built credential → Built (credential.withProperty key value)

/-- A property that can be written among others. -/
structure PlainProperty (key value : String) : Prop where
  notMechanism : key ≠ mechanismKey
  noSeparatorInKey : ∀ c ∈ ['=', '&', '@'], c ∉ key.toList
  noSeparatorInValue : ∀ c ∈ ['&', '@'], c ∉ value.toList
  trimmed : Text.trimEnd value.toList = value.toList

/-- A source that can be written before options. -/
structure PlainSource (source : String) : Prop where
  notEmpty : source ≠ ""
  noSeparator : ∀ c ∈ ['@', '?'], c ∉ source.toList
  trimmed : Text.trim source.toList = source.toList

/-- Parts that can stand in one text. Without a password the source is not written. -/
structure Readable (credential : Credential) : Prop where
  user : credential.user ≠ some ""
  password : credential.password ≠ some ""
  source : credential.password.isSome → PlainSource credential.source
  properties : ∀ entry ∈ credential.properties.entries, PlainProperty entry.1 entry.2

-----------------------------------------------------------------------------------------
-- User and password
-----------------------------------------------------------------------------------------

/-- User and password are read as they were before they were escaped. -/
theorem readUserInfo_writeUserInfo (user : String) (password : Option String)
    : readUserInfo (writeUserInfo user password) = (user, password) := by
  have hcolon : ':' ∉ Text.Percent.encode user.toList :=
    Text.Percent.not_mem_encode (by decide) _
  cases password with
  | none =>
      simp [readUserInfo, writeUserInfo, Text.afterSign, Text.cutFirst_eq_none_iff.2 hcolon]
  | some password =>
      simp [readUserInfo, writeUserInfo, Text.afterSign, Text.cutFirst_append hcolon]

theorem not_mem_writeUserInfo {c : Char} (hwritten : Text.Percent.isWritten c = false)
    (hcolon : c ≠ ':') (user : String) (password : Option String)
    : c ∉ writeUserInfo user password := by
  have hencode (text : List Char) : c ∉ Text.Percent.encode text :=
    Text.Percent.not_mem_encode hwritten text
  cases password <;> simp [writeUserInfo, Text.afterSign, hencode, hcolon]

/-- The constructors know two forms: an external user, and a user with a password. -/
theorem Built.form {credential : Credential} (h : Built credential)
    : (∃ mechanism user,
        mechanism.isExternal = true
        ∧ credential
          = { external mechanism (some user) with properties := credential.properties })
      ∨ (∃ mechanism user source password,
          mechanism.any Mechanism.isExternal = false
          ∧ credential
            = {
                withPassword mechanism user source password with
                  properties := credential.properties
              }) := by
  induction h with
  | negotiated user source password => exact Or.inr ⟨none, user, source, password, rfl, rfl⟩
  | plain user source password => exact Or.inr ⟨some .plain, user, source, password, rfl, rfl⟩
  | scramSha1 user source password =>
      exact Or.inr ⟨some .scramSha1, user, source, password, rfl, rfl⟩
  | scramSha256 user source password =>
      exact Or.inr ⟨some .scramSha256, user, source, password, rfl, rfl⟩
  | gssapi user => exact Or.inl ⟨.gssapi, user, rfl, rfl⟩
  | x509 user => exact Or.inl ⟨.x509, user, rfl, rfl⟩
  | withProperty key value _ ih =>
      rcases ih with ⟨mechanism, user, hexternal, heq⟩
        | ⟨mechanism, user, source, password, hexternal, heq⟩
      · have hnext := congrArg (Credential.withProperty · key value) heq
        exact Or.inl ⟨mechanism, user, hexternal, hnext⟩
      · have hnext := congrArg (Credential.withProperty · key value) heq
        exact Or.inr ⟨mechanism, user, source, password, hexternal, hnext⟩

theorem assemble_withPassword {mechanism : Option Mechanism} {user source password : String}
    (hmechanism : mechanism.any Mechanism.isExternal = false) (huser : user ≠ "")
    (hpassword : password ≠ "") (hsource : source ≠ "")
    : assemble mechanism user (some password) source
      = .ok (withPassword mechanism user source password) := by
  have hkept : (some password).filter (· ≠ "") = some password := by
    rw [Option.filter_some, if_pos (by simpa using hpassword)]
  match mechanism, hmechanism with
  | none, _ | some .plain, _ | some .scramSha1, _ | some .scramSha256, _ =>
      simp only [assemble, if_neg huser, hkept, if_neg hsource]

/-- The parts of a text that are no properties make up the credential without them. -/
theorem Readable.assemble_written {credential : Credential} (hbuilt : Built credential)
    (h : credential.Readable)
    : assemble credential.mechanism (credential.user.getD "") credential.password
        (String.ofList credential.writtenSource)
      = .ok { credential with properties := ∅ } := by
  rcases hbuilt.form with ⟨mechanism, user, hexternal, heq⟩
    | ⟨mechanism, user, source, password, hexternal, heq⟩
  · have huser := h.user
    rw [heq] at huser ⊢
    simp only [external, ne_eq, Option.some.injEq] at huser
    cases mechanism with
    | gssapi => simp [assemble, external, gssapi, huser]
    | x509 => simp [assemble, external, x509, huser]
    | plain | scramSha1 | scramSha256 => cases hexternal
  · have huser := h.user
    have hpassword := h.password
    have hsource := (h.source (by rw [heq]; rfl)).notEmpty
    rw [heq] at huser hpassword hsource ⊢
    simp only [withPassword, ne_eq, Option.some.injEq] at huser hpassword hsource
    have hassembled := assemble_withPassword hexternal huser hpassword hsource
    simp [withPassword, writtenSource, hexternal, hassembled]

-----------------------------------------------------------------------------------------
-- Options
-----------------------------------------------------------------------------------------

/-- Options with one thing more set. -/
def Options.put (options : Options) : Setting → Options
  | .mechanism value => { options with mechanism := some value }
  | .property key value => { options with properties := options.properties.insert key value }

/-- An option that can be written among others. -/
inductive Setting.Readable : Setting → Prop where
  | mechanism (value : Mechanism) : Readable (.mechanism value)
  | property {key value : String} : PlainProperty key value → Readable (.property key value)

theorem read_name (mechanism : Mechanism)
    : Mechanism.read mechanism.name = .ok mechanism := by
  cases mechanism <;> rfl

theorem optionKey_append (key : List Char) : optionKey (optionScope ++ key) = key := by
  rw [optionKey, Text.stripStart?_eq_some_iff.2 rfl, Option.getD_some]

theorem not_mem_optionScope {c : Char} (hc : c ∈ ['=', '&', '@']) : c ∉ optionScope := by
  simp only [List.mem_cons, List.not_mem_nil, or_false] at hc
  rcases hc with rfl | rfl | rfl <;> decide

/-- What separates the parts of options stands in no key. -/
theorem Setting.Readable.not_mem_key {setting : Setting} (h : setting.Readable) {c : Char}
    (hc : c ∈ ['=', '&', '@'])
    : c ∉ optionScope ++ setting.key.toList := by
  rw [List.mem_append, not_or]
  refine ⟨not_mem_optionScope hc, ?_⟩
  cases h with
  | mechanism value =>
      simp only [List.mem_cons, List.not_mem_nil, or_false] at hc
      rcases hc with rfl | rfl | rfl <;> simp only [Setting.key] <;> decide
  | property hplain => exact hplain.noSeparatorInKey c hc

theorem Setting.Readable.not_mem_value {setting : Setting} (h : setting.Readable) {c : Char}
    (hc : c ∈ ['&', '@'])
    : c ∉ setting.value.toList := by
  cases h with
  | mechanism value =>
      simp only [List.mem_cons, List.not_mem_nil, or_false] at hc
      rcases hc with rfl | rfl <;> cases value <;> decide
  | property hplain => exact hplain.noSeparatorInValue c hc

theorem Setting.Readable.trimmed_value {setting : Setting} (h : setting.Readable)
    : Text.trimEnd setting.value.toList = setting.value.toList := by
  cases h with
  | mechanism value => cases value <;> decide
  | property hplain => exact hplain.trimmed

/-- What separates options and comes before them stands in none of them. -/
theorem Setting.Readable.not_mem_text {setting : Setting} (h : setting.Readable) {c : Char}
    (hc : c ∈ ['&', '@'])
    : c ∉ setting.text := by
  have hkey := h.not_mem_key (List.mem_cons_of_mem '=' hc)
  have hvalue := h.not_mem_value hc
  have hsign : c ≠ '=' := by
    rintro rfl
    exact absurd hc (by decide)
  rw [Setting.text, List.mem_append, List.mem_cons, not_or, not_or]
  exact ⟨hkey, hsign, hvalue⟩

theorem text_ne_nil (setting : Setting) : setting.text ≠ [] :=
  List.append_ne_nil_of_right_ne_nil _ (List.cons_ne_nil _ _)

/-- The text of an option sets what it was written for. The scope is taken off once, so that a key
may begin with one itself. -/
theorem addOption_text (shown : String) (options : Options) {setting : Setting}
    (h : setting.Readable)
    : addOption shown options setting.text = .ok (options.put setting) := by
  have hcut
      : Text.cutFirst '=' setting.text
        = some (optionScope ++ setting.key.toList, setting.value.toList) :=
    Text.cutFirst_append (h.not_mem_key (by decide))
  simp only [addOption, hcut, optionKey_append, String.ofList_toList]
  cases h with
  | mechanism value =>
      rw [if_pos (show (Setting.mechanism value).key = mechanismKey from rfl), Setting.value,
        read_name]
      rfl
  | property hplain => exact if_neg hplain.notMechanism

/-- Options that can all be read never stop the reader, by induction on them. -/
theorem foldlM_addOption (shown : String) {settings : List Setting}
    (h : ∀ setting ∈ settings, setting.Readable) (options : Options)
    : (settings.map Setting.text).foldlM (addOption shown) options
      = .ok (settings.foldl Options.put options) := by
  induction settings generalizing options with
  | nil => rfl
  | cons setting rest ih =>
      have hrest := ih fun s hs => h s (List.mem_cons_of_mem setting hs)
      rw [List.map_cons, List.foldlM_cons, addOption_text shown options (h setting (by simp))]
      exact hrest (options.put setting)

theorem getD_writtenOptions (settings : List Setting)
    : (writtenOptions settings).getD [] = ['&'].intercalate (settings.map Setting.text) := by
  rw [writtenOptions]
  split
  · rename_i hnil
    rw [hnil]
    rfl
  · rfl

theorem ne_nil_of_mem_texts {settings : List Setting} {part : List Char}
    (h : part ∈ settings.map Setting.text)
    : part ≠ [] := by
  obtain ⟨setting, _, rfl⟩ := List.mem_map.1 h
  exact text_ne_nil setting

/-- Written options set one thing after the other. -/
theorem readOptions_writtenOptions (shown : String) {settings : List Setting}
    (h : ∀ setting ∈ settings, setting.Readable)
    : readOptions shown ((writtenOptions settings).getD [])
      = .ok (settings.foldl Options.put {}) := by
  have hsign : ∀ part ∈ settings.map Setting.text, '&' ∉ part := by
    intro part hpart
    obtain ⟨setting, hsetting, rfl⟩ := List.mem_map.1 hpart
    exact (h setting hsetting).not_mem_text (by decide)
  rw [getD_writtenOptions, readOptions,
    Text.nonempty_pieces_intercalate (fun _ => ne_nil_of_mem_texts) hsign,
    foldlM_addOption shown h]

-----------------------------------------------------------------------------------------
-- The order of options
-----------------------------------------------------------------------------------------

theorem mem_settings {credential : Credential} {setting : Setting}
    : setting ∈ credential.settings
      ↔ (∃ value, credential.mechanism = some value ∧ setting = .mechanism value)
        ∨ (∃ key value,
            credential.properties.get? key = some value ∧ setting = .property key value) := by
  rw [settings, List.mem_append, Option.mem_toList, List.mem_map]
  constructor
  · rintro (hmem | ⟨entry, hmem, rfl⟩)
    · obtain ⟨value, hvalue, rfl⟩ := Option.map_eq_some_iff.1 hmem
      exact Or.inl ⟨value, hvalue, rfl⟩
    · exact Or.inr ⟨entry.1, entry.2, Dictionary.mem_entries_iff.1 hmem, rfl⟩
  · rintro (⟨value, hvalue, rfl⟩ | ⟨key, value, hvalue, rfl⟩)
    · exact Or.inl (by rw [hvalue]; rfl)
    · have hmem : (key, value) ∈ credential.properties.entries :=
        Dictionary.mem_entries_iff.2 hvalue
      exact Or.inr ⟨(key, value), hmem, rfl⟩

/-- No two options of a credential set the same thing, so they can be taken in either order. -/
theorem put_comm {credential : Credential} {first second : Setting}
    (hfirst : first ∈ credential.settings) (hsecond : second ∈ credential.settings)
    (options : Options)
    : (options.put first).put second = (options.put second).put first := by
  rw [mem_settings] at hfirst hsecond
  rcases hfirst with ⟨value, hvalue, rfl⟩ | ⟨key, value, hvalue, rfl⟩
  · rcases hsecond with ⟨other, hother, rfl⟩ | ⟨key, other, hother, rfl⟩
    · rw [hvalue] at hother
      rw [Option.some.inj hother]
    · rfl
  · rcases hsecond with ⟨other, hother, rfl⟩ | ⟨otherKey, other, hother, rfl⟩
    · rfl
    · by_cases hkey : key = otherKey
      · subst hkey
        rw [hvalue] at hother
        rw [Option.some.inj hother]
      · simp [Options.put, Dictionary.insert_comm _ hkey]

theorem foldl_put_properties (options : Options) (entries : List (String × String))
    : (entries.map fun entry => Setting.property entry.1 entry.2).foldl Options.put options
      = { options with
            properties :=
              entries.foldl (fun written entry => written.insert entry.1 entry.2)
                options.properties } := by
  induction entries generalizing options with
  | nil => rfl
  | cons entry rest ih => rw [List.map_cons, List.foldl_cons, ih]; rfl

/-- All options together, in any order, set the mechanism and the properties. -/
theorem foldl_put_of_perm {credential : Credential} {settings : List Setting}
    (h : settings.Perm credential.settings)
    : settings.foldl Options.put {}
      = { mechanism := credential.mechanism, properties := credential.properties } := by
  rw [← h.symm.foldl_eq' fun first hfirst second hsecond options =>
    put_comm hfirst hsecond options]
  rw [Credential.settings, List.foldl_append, foldl_put_properties]
  have hproperties := Dictionary.ofList_entries credential.properties
  cases hmechanism : credential.mechanism with
  | none => exact congrArg (Options.mk none) hproperties
  | some value => exact congrArg (Options.mk (some value)) hproperties

theorem Readable.readable_of_mem {credential : Credential} (h : credential.Readable)
    {setting : Setting} (hmem : setting ∈ credential.settings)
    : setting.Readable := by
  rcases mem_settings.1 hmem with ⟨value, -, rfl⟩ | ⟨key, value, hvalue, rfl⟩
  · exact .mechanism value
  · exact .property (h.properties (key, value) (Dictionary.mem_entries_iff.2 hvalue))

-----------------------------------------------------------------------------------------
-- The text
-----------------------------------------------------------------------------------------

theorem eq_intercalate_of_writtenOptions {settings : List Setting} {text : List Char}
    (h : writtenOptions settings = some text)
    : text = ['&'].intercalate (settings.map Setting.text) := by
  rw [← getD_writtenOptions, h, Option.getD_some]

/-- Joined options hold the separators between them and what the options hold. -/
theorem not_mem_writtenOptions {settings : List Setting}
    (h : ∀ setting ∈ settings, setting.Readable) {text : List Char}
    (htext : writtenOptions settings = some text)
    : '@' ∉ text := by
  rw [eq_intercalate_of_writtenOptions htext]
  intro hmem
  rcases Text.mem_of_mem_intercalate hmem with heq | ⟨part, hpart, hin⟩
  · exact absurd heq (by decide)
  · obtain ⟨setting, hsetting, rfl⟩ := List.mem_map.1 hpart
    exact (h setting hsetting).not_mem_text (by decide) hin

theorem isBlank_getLast?_writtenOptions {settings : List Setting}
    (h : ∀ setting ∈ settings, setting.Readable)
    : ∀ text ∈ writtenOptions settings, ∀ c ∈ text.getLast?, Text.isBlank c = false := by
  intro text htext c hc
  rw [eq_intercalate_of_writtenOptions htext] at hc
  obtain ⟨part, hpart, hlast⟩ := Text.getLast?_intercalate (fun _ => ne_nil_of_mem_texts) hc
  obtain ⟨setting, hsetting, rfl⟩ := List.mem_map.1 hpart
  have hvalue := Text.trimEnd_eq_self_iff.1 (h setting hsetting).trimmed_value
  exact Text.isBlank_getLast?_append_cons (by decide) hvalue _ c hlast

/-- A written source holds no sign that the text is cut at, and no blanks around it. -/
theorem Readable.plain_writtenSource {credential : Credential} (hbuilt : Built credential)
    (h : credential.Readable)
    : '@' ∉ credential.writtenSource
      ∧ '?' ∉ credential.writtenSource
      ∧ Text.trim credential.writtenSource = credential.writtenSource := by
  rw [writtenSource]
  split
  · simp
  · rename_i hinternal
    have hpassword : credential.password.isSome := by
      rcases hbuilt.form with ⟨mechanism, user, hexternal, heq⟩
        | ⟨mechanism, user, source, password, hexternal, heq⟩
      · rw [heq] at hinternal
        exact absurd hexternal hinternal
      · rw [heq]
        rfl
    have hsource := h.source hpassword
    exact ⟨hsource.noSeparator '@' (by decide), hsource.noSeparator '?' (by decide),
      hsource.trimmed⟩

theorem Readable.user_ne_empty {credential : Credential} (hbuilt : Built credential)
    (h : credential.Readable)
    : credential.user.getD "" ≠ "" := by
  intro hempty
  rcases hbuilt.form with ⟨mechanism, user, -, heq⟩ | ⟨mechanism, user, source, password, -, heq⟩
  all_goals
    have huser : credential.user = some user := by rw [heq]; rfl
    rw [huser, Option.getD_some] at hempty
    exact h.user (huser.trans (congrArg some hempty))

/-- Trimming takes nothing off the text. -/
theorem Readable.trimmed_write {credential : Credential} (hbuilt : Built credential)
    (h : credential.Readable) {settings : List Setting}
    (hsettings : ∀ setting ∈ settings, setting.Readable)
    : Text.Trimmed (credential.write settings) := by
  have hsource := Text.trim_eq_self_iff.1 (h.plain_writtenSource hbuilt).2.2
  have hrest
      : ∀ c ∈ (credential.writtenSource
            ++ Text.afterSign '?' (writtenOptions settings)).getLast?,
          Text.isBlank c = false :=
    Text.isBlank_getLast?_afterSign hsource.last (by decide)
      (isBlank_getLast?_writtenOptions hsettings)
  constructor
  · intro c hc
    have hne : Text.Percent.encode (credential.user.getD "").toList ≠ [] :=
      Text.Percent.encode_ne_nil fun hnil =>
        h.user_ne_empty hbuilt (String.toList_eq_nil_iff.1 hnil)
    rw [write, writeUserInfo, List.append_assoc, List.head?_append_of_ne_nil _ hne] at hc
    exact Text.Percent.isBlank_of_mem_encode (List.mem_of_mem_head? hc)
  · exact Text.isBlank_getLast?_append_cons (by decide) hrest _

/-- Reading undoes writing, in whatever order the options are written. -/
theorem read_write_of_built {credential : Credential} (hbuilt : Built credential)
    (h : credential.Readable) {settings : List Setting}
    (horder : settings.Perm credential.settings)
    : read (String.ofList (credential.write settings)) = .ok credential := by
  have hsettings : ∀ setting ∈ settings, setting.Readable := fun setting hmem =>
    h.readable_of_mem (horder.mem_iff.1 hmem)
  have hsource := h.plain_writtenSource hbuilt
  have htrim := Text.trim_of_trimmed (h.trimmed_write hbuilt hsettings)
  have hrest
      : '@' ∉ credential.writtenSource ++ Text.afterSign '?' (writtenOptions settings) := by
    rw [List.mem_append, not_or]
    refine ⟨hsource.1, ?_⟩
    cases hoptions : writtenOptions settings with
    | none => simp [Text.afterSign]
    | some text => simp [Text.afterSign, not_mem_writtenOptions hsettings hoptions]
  have hcut
      : Text.cutLast '@' (credential.write settings)
        = some
            (writeUserInfo (credential.user.getD "") credential.password,
              credential.writtenSource ++ Text.afterSign '?' (writtenOptions settings)) :=
    Text.cutLast_append hrest
  rw [read, String.toList_ofList, htrim, readTrimmed, hcut]
  simp only [readUserInfo_writeUserInfo, Text.cutFirst_afterSign hsource.2.1,
    readOptions_writtenOptions _ hsettings, foldl_put_of_perm horder]
  simp [bind, Except.bind, h.assemble_written hbuilt, Except.mapError]

/-- A credential that is full of separators. One key begins with the scope of options. -/
def separatorsInside : Credential :=
  ((scramSha256 "a:b@ü/?" "us/ers" "p%41,&=").withProperty "uri.x" "1=2?").withProperty "" "ß"

theorem read_write_separatorsInside
    : [.property "uri.x" "1=2?", .mechanism .scramSha256, .property "" "ß"].Perm
        separatorsInside.settings
      ∧ read
          (String.ofList
            (separatorsInside.write
              [.property "uri.x" "1=2?", .mechanism .scramSha256, .property "" "ß"]))
        = .ok separatorsInside := by
  have horder
      : [.property "uri.x" "1=2?", .mechanism .scramSha256, .property "" "ß"].Perm
          separatorsInside.settings := by
    decide
  refine ⟨horder, read_write_of_built ?_ ?_ horder⟩
  · exact ((Built.scramSha256 _ _ _).withProperty _ _).withProperty _ _
  · constructor
    · decide
    · decide
    · intro _
      refine ⟨by decide, ?_, by decide⟩
      simp only [List.forall_mem_cons, List.not_mem_nil, false_imp_iff, implies_true, and_true]
      decide
    · intro entry hentry
      have hentries : separatorsInside.properties.entries = [("", "ß"), ("uri.x", "1=2?")] := by
        decide
      rw [hentries] at hentry
      simp only [List.mem_cons, List.not_mem_nil, or_false] at hentry
      rcases hentry with rfl | rfl
      all_goals
        refine ⟨by decide, ?_, ?_, by decide⟩
        all_goals
          simp only [List.forall_mem_cons, List.not_mem_nil, false_imp_iff, implies_true,
            and_true]
          decide

end MongoConfig.Credential
