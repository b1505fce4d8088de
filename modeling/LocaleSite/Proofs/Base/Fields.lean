import LocaleSite.Proofs.Shape.Acceptance
import LocaleSite.Proofs.Site.Encoding

/-!
# Settings field by field

Settings are read one field at a time: each field comes from what stands under its key, and where
nothing does, it is as in settings that give nothing. So written settings from which some keys are
taken are read back with just these fields reset. Whether the settings can be used does not matter.
-/

namespace LocaleSite

namespace Value

/-- A table without the entries at some keys. -/
def without (keys : List String) : Value → Value
  | .table entries => .table (entries.filter fun entry => !keys.contains entry.1)
  | value => value

@[simp]
theorem without_nil (value : Value) : value.without [] = value := by
  cases value <;> simp [without]

theorem entry?_filter (keep : String → Bool) (key : String) (entries : List (String × Value)) :
    entry? key (entries.filter fun entry => keep entry.1) =
      if keep key then entry? key entries else none := by
  induction entries with
  | nil => simp [Value.entry?]
  | cons entry rest ih =>
      rcases entry with ⟨other, value⟩
      by_cases here : other = key
      · subst here
        cases kept : keep other with
        | true => simp [Value.entry?, kept]
        | false => simpa [Value.entry?, kept] using ih
      · cases kept : keep other <;> simp [Value.entry?, kept, here, ih]

theorem Plain.without {value : Value} (plain : value.Plain) (keys : List String) :
    (value.without keys).Plain := by
  cases plain with
  | table nodup each =>
      apply Plain.table (nodup.sublist (List.filter_sublist.map Prod.fst))
      intro entry entry_mem
      exact each entry (List.mem_of_mem_filter entry_mem)
  | bool value => exact .bool value
  | string value => exact .string value
  | list each => exact .list each

end Value

namespace Field

variable {α : Type} {shape : Shape α} {format : Format} {entries : List (String × Value)}
  {name : String} {dropped : Prop} [Decidable dropped]

theorem ofEntries_withDefault_of_dropped {default thing : α} {value : Value}
    (reads : shape format value = .ok thing)
    (here : Value.entry? name entries = if dropped then none else some value) :
    (withDefault name shape default).ofEntries format entries =
      .ok (if dropped then default else thing) := by
  split at here
  · rename_i isDropped
    rw [if_pos isDropped]
    exact ofEntries_of_absent rfl rfl here
  · rename_i isKept
    rw [if_neg isKept, ofEntries_of_present rfl here]
    exact atKey_eq_ok_iff.2 reads

theorem ofEntries_optional_of_dropped {write : α → Value} {held : Option α}
    (reads : ∀ thing, shape.nullable format (write thing) = .ok (some thing))
    (here : Value.entry? name entries = if dropped then none else held.map write) :
    (optional name shape).ofEntries format entries = .ok (if dropped then none else held) := by
  apply ofEntries_optional reads
  rw [here]
  split <;> rfl

theorem ofEntries_nullable (name : String) (shape : Shape α) :
    (nullable name shape).ofEntries format entries =
      (optional name shape).ofEntries format entries := rfl

end Field

/-! ## Written parts -/

theorem SocialIcon.shape_name (format : Format) (icon : SocialIcon) :
    shape format (.string icon.name) = .ok icon := by
  cases icon <;> rfl

theorem SearchProvider.shape_name (format : Format) (provider : SearchProvider) :
    shape format (.string provider.name) = .ok provider := by
  cases provider <;> rfl

theorem SocialLink.reads_toValue (format : Format) (social : SocialLink) :
    shape format social.toValue = .ok social := by
  change Record.shape _ _ format (.ofFields [("icon", some (.string social.icon.name)),
    ("link", some (.string social.link))]) = _
  rw [Record.shape_ofFields (by simp [Record.field, Record.start, Field.required, Field.keys])]
  simp only [Record.ofEntries_field]
  rw [Field.ofEntries_required (SocialIcon.shape_name format social.icon) rfl,
    Field.ofEntries_required (Shape.text_string format social.link) rfl]
  rfl

theorem SocialLink.list_reads_toValue (format : Format) (socials : List SocialLink) :
    shape.list format (.list (socials.map toValue)) = .ok socials := by
  rw [Shape.list_eq_ok_iff]
  refine ⟨_, rfl, ?_⟩
  simp [List.forall₂_map_left_iff, reads_toValue, List.forall₂_same]

theorem SearchConfig.reads_toValue (format : Format) (search : SearchConfig) :
    shape format search.toValue = .ok search := by
  change Record.shape _ _ format (.ofFields [("provider", some (.string search.provider.name))]) = _
  rw [Record.shape_ofFields (by simp [Record.field, Record.start, Field.required, Field.keys])]
  simp only [Record.ofEntries_field]
  rw [Field.ofEntries_required (SearchProvider.shape_name format search.provider) rfl]
  rfl

theorem Footer.reads_toValue (format : Format) (footer : Footer) :
    shape format footer.toValue = .ok footer := by
  have readsText : ∀ content, Shape.text.nullable format (.string content) = .ok (some content) :=
    Shape.nullable_text_string format
  rw [shape, toValue,
    Record.shape_ofFields (by simp [Record.field, Record.start, Field.nullable, Field.keys])]
  generalize written : Value.heldFields _ = entries
  have messageHere : Value.entry? "message" entries = footer.message.map .string := by
    simp [← written, Value.entry?_heldFields_cons]
  have copyrightHere : Value.entry? "copyright" entries = footer.copyright.map .string := by
    simp [← written, Value.entry?_heldFields_cons]
  simp only [Record.ofEntries_field, Field.ofEntries_nullable]
  rw [Field.ofEntries_optional readsText messageHere,
    Field.ofEntries_optional readsText copyrightHere]
  rfl

theorem Footer.nullable_reads_toValue (format : Format) (footer : Footer) :
    shape.nullable format footer.toValue = .ok (some footer) := by
  rw [Shape.nullable_eq_ok_iff]
  exact .inr ⟨by simp [toValue, Value.ofFields], footer, reads_toValue format footer, rfl⟩

/-! ## Settings -/

inductive BaseField where
  | base
  | title
  | description
  | lastUpdated
  | cleanUrls
  | metaChunk
  | socialLinks
  | search
  | footer
deriving DecidableEq, Repr

/-- The key under which a field is written. -/
def BaseField.key : BaseField → String
  | .base => "base"
  | .title => "title"
  | .description => "description"
  | .lastUpdated => "last_updated"
  | .cleanUrls => "clean_urls"
  | .metaChunk => "meta_chunk"
  | .socialLinks => "social_links"
  | .search => "search"
  | .footer => "footer"

theorem BaseField.key_injective : Function.Injective key := by
  intro left right
  cases left <;> cases right <;> decide

namespace BaseConfig

/-- The settings with some fields as in settings that give nothing. -/
def reset (config : BaseConfig) (dropped : List BaseField) : BaseConfig where
  base := if .base ∈ dropped then initial.base else config.base
  title := if .title ∈ dropped then initial.title else config.title
  description := if .description ∈ dropped then initial.description else config.description
  lastUpdated := if .lastUpdated ∈ dropped then initial.lastUpdated else config.lastUpdated
  cleanUrls := if .cleanUrls ∈ dropped then initial.cleanUrls else config.cleanUrls
  metaChunk := if .metaChunk ∈ dropped then initial.metaChunk else config.metaChunk
  socialLinks := if .socialLinks ∈ dropped then initial.socialLinks else config.socialLinks
  search := if .search ∈ dropped then initial.search else config.search
  footer := if .footer ∈ dropped then initial.footer else config.footer

/-- What is written under the key of a field, if anything. -/
def written (config : BaseConfig) : BaseField → Option Value
  | .base => some (.string config.base)
  | .title => some (.string config.title)
  | .description => config.description.map .string
  | .lastUpdated => some (.bool config.lastUpdated)
  | .cleanUrls => some (.bool config.cleanUrls)
  | .metaChunk => some (.bool config.metaChunk)
  | .socialLinks => some (.list (config.socialLinks.map SocialLink.toValue))
  | .search => some config.search.toValue
  | .footer => config.footer.map Footer.toValue

theorem entry?_fields (config : BaseConfig) (field : BaseField) :
    Value.entry? field.key (Value.heldFields config.fields) = config.written field := by
  cases field <;> simp [fields, BaseField.key, written, Value.entry?_heldFields_cons, Value.entry?]

/-- A table in which each field stands as it is written, but for those that are dropped. -/
def Drops (config : BaseConfig) (dropped : List BaseField) (entries : List (String × Value)) :
    Prop :=
  ∀ field : BaseField,
    Value.entry? field.key entries = if field ∈ dropped then none else config.written field

theorem drops_filter (config : BaseConfig) (dropped : List BaseField) :
    config.Drops dropped ((Value.heldFields config.fields).filter fun entry =>
      !(dropped.map BaseField.key).contains entry.1) := by
  intro field
  rw [Value.entry?_filter fun key => !(dropped.map BaseField.key).contains key, entry?_fields]
  simp [BaseField.key_injective.eq_iff]

theorem shape_of_drops {format : Format} {config : BaseConfig} {dropped : List BaseField}
    {entries : List (String × Value)} (drops : config.Drops dropped entries)
    (known : ∀ entry ∈ entries, entry.1 ∈ config.fields.map Prod.fst) :
    shape format (.table entries) = .ok (config.reset dropped) := by
  have readsText := Shape.nullable_text_string format
  have baseRead : (Field.withDefault "base" .text initial.base).ofEntries format entries = _ :=
    Field.ofEntries_withDefault_of_dropped (Shape.text_string format _) (drops .base)
  have titleRead : (Field.withDefault "title" .text initial.title).ofEntries format entries = _ :=
    Field.ofEntries_withDefault_of_dropped (Shape.text_string format _) (drops .title)
  have descriptionRead : (Field.optional "description" .text).ofEntries format entries = _ :=
    Field.ofEntries_optional_of_dropped readsText (drops .description)
  have updatedRead :
      (Field.withDefault "last_updated" .flag initial.lastUpdated).ofEntries format entries = _ :=
    Field.ofEntries_withDefault_of_dropped rfl (drops .lastUpdated)
  have urlsRead :
      (Field.withDefault "clean_urls" .flag initial.cleanUrls).ofEntries format entries = _ :=
    Field.ofEntries_withDefault_of_dropped rfl (drops .cleanUrls)
  have chunkRead :
      (Field.withDefault "meta_chunk" .flag initial.metaChunk).ofEntries format entries = _ :=
    Field.ofEntries_withDefault_of_dropped rfl (drops .metaChunk)
  have linksRead : (Field.withDefault "social_links" SocialLink.shape.list
      initial.socialLinks).ofEntries format entries = _ :=
    Field.ofEntries_withDefault_of_dropped (SocialLink.list_reads_toValue format _)
      (drops .socialLinks)
  have searchRead :
      (Field.withDefault "search" SearchConfig.shape initial.search).ofEntries format entries = _ :=
    Field.ofEntries_withDefault_of_dropped (SearchConfig.reads_toValue format _) (drops .search)
  have footerRead : (Field.optional "footer" Footer.shape).ofEntries format entries = _ :=
    Field.ofEntries_optional_of_dropped (Footer.nullable_reads_toValue format) (drops .footer)
  change Record.ofTable _ format entries = _
  rw [Record.ofTable_eq fun entry entry_mem => .inl (known entry entry_mem)]
  simp only [Record.ofEntries_field]
  rw [baseRead, titleRead, descriptionRead, updatedRead, urlsRead, chunkRead, linksRead,
    searchRead, footerRead]
  rfl

theorem shape_toValue_without (format : Format) (dropped : List BaseField) (config : BaseConfig) :
    shape format (config.toValue.without (dropped.map BaseField.key)) =
      .ok (config.reset dropped) := by
  apply shape_of_drops (drops_filter config dropped)
  intro entry entry_mem
  apply (Value.keys_heldFields_sublist config.fields).subset
  exact List.mem_map_of_mem (List.mem_of_mem_filter entry_mem)

theorem plain_toValue (config : BaseConfig) : config.toValue.Plain :=
  Value.plain_ofFields (by simp [fields]) plain_of_mem_fields

@[simp]
theorem reset_nil (config : BaseConfig) : config.reset [] = config := by
  simp [reset]

/-- Written settings, with or without a way through their text, are read back with just those
fields reset whose keys are taken out. -/
theorem shape_without_eq_reset (config : BaseConfig) (dropped : List BaseField) :
    (∀ format, shape format (config.toValue.without (dropped.map BaseField.key)) =
      .ok (config.reset dropped)) ∧
    (∃ value, Json.read? (Json.compact (config.toValue.without (dropped.map BaseField.key))) =
      some value ∧ shape .json value = .ok (config.reset dropped)) ∧
    ∃ value, Json.read? (Json.compact config.toValue) = some value ∧
      shape .json value = .ok config := by
  have whole := shape_toValue_without .json [] config
  rw [List.map_nil, Value.without_nil, reset_nil] at whole
  refine ⟨fun format => shape_toValue_without format dropped config, ?_, ?_⟩
  · exact ⟨_, Json.read?_compact (config.plain_toValue.without _),
      shape_toValue_without .json dropped config⟩
  · exact ⟨_, Json.read?_compact config.plain_toValue, whole⟩

end BaseConfig

end LocaleSite
