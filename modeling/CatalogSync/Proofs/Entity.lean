/-
**Types by their tags.**

* `EntityType.Settled` — the tag of a type has no blanks at its ends, and its letters are small.
* `settled_ofTag` — a type that a tag names is settled, and `ofTag_of_settled` — a type that is
  settled is the one that its own tag names.
* **`ofTag_closed`** — so naming a type by its tag is a closure: the tag of a type that a tag names,
  with any blanks around it, names the same type. Wherever such a tag is reported, logged or
  registered, it leads back to what it stands for.
-/

import CatalogSync.Proofs.Text.Lowercase
import CatalogSync.Registry

namespace CatalogSync

namespace EntityType

/-- The tag of a type has no blanks at its ends, and its letters are small. -/
structure Settled (entityType : EntityType) : Prop where
  bare : Text.Bare Text.isBlank entityType.tag.toList
  small : Text.lowercase entityType.tag = entityType.tag

/-- A type that a tag names is settled. -/
theorem settled_ofTag (tag : String) : (ofTag tag).Settled where
  bare := by
    show Text.Bare Text.isBlank (Text.lowercase (Text.trim tag)).toList
    unfold Text.lowercase Text.trim
    rw [String.toList_ofList, String.toList_ofList]
    exact Text.bare_lowerCharacters (Text.bare_trimWhile _ _)
  small := Text.lowercase_lowercase (Text.trim tag)

/-- A type that is settled is the one that its own tag names. -/
theorem ofTag_of_settled {entityType : EntityType} (settled : entityType.Settled) :
    ofTag entityType.tag = entityType := by
  unfold ofTag
  rw [Text.trim_of_bare settled.bare, settled.small]

/-- **The tag of a type that a tag names does not change any more.** -/
theorem ofTag_ofTag (tag : String) : ofTag (ofTag tag).tag = ofTag tag :=
  ofTag_of_settled (settled_ofTag tag)

/-- **Blanks around a tag make no difference.** -/
theorem ofTag_append {before after : String} (blankBefore : Text.isAllBlank before = true)
    (blankAfter : Text.isAllBlank after = true) (tag : String) :
    ofTag (before ++ tag ++ after) = ofTag tag := by
  unfold ofTag
  rw [Text.trim_append blankBefore blankAfter]

end EntityType

namespace Registry

variable {σ : Type} {entityType : EntityType} {name : String}

/-- The name that a failing look-up reports is the tag of the type. -/
theorem eq_tag_of_reported {readers : Registry (IndexReader σ)}
    (failed : readers.readerFor entityType = .error (.unknownType name)) :
    name = entityType.tag := by
  unfold readerFor at failed
  split at failed
  · cases failed
  · cases failed
    rfl

/-- So is the name that a look-up for writing tells of. -/
theorem eq_tag_of_logged {writers : Registry (IndexWriter σ)} {state : σ} {event : Event}
    (told : event ∈ ((writers.writerFor entityType).run state).events)
    (named : ("entity_type", .text name) ∈ event.fields) : name = entityType.tag := by
  unfold writerFor at told
  split at told
  · cases told
  · obtain rfl := List.mem_singleton.mp told
    cases List.mem_singleton.mp named
    rfl

end Registry

namespace EntityType

/-- **Naming a type by its tag is a closure.** The tag of a type that a tag names does not change
any more, and blanks around a tag make no difference. So a name that a failing look-up reports or
tells of leads back to the type that was looked for, and what is registered for a type is found
under its tag, with any blanks around it. -/
theorem ofTag_closed (tag : String) :
    ofTag (ofTag tag).tag = ofTag tag ∧
    (∀ before after : String, Text.isAllBlank before = true → Text.isAllBlank after = true →
      ofTag (before ++ tag ++ after) = ofTag tag) ∧
    (∀ (σ : Type) (readers : Registry (IndexReader σ)) (name : String),
      readers.readerFor (ofTag tag) = .error (.unknownType name) → ofTag name = ofTag tag) ∧
    (∀ (σ : Type) (writers : Registry (IndexWriter σ)) (state : σ) (event : Event) (name : String),
      event ∈ ((writers.writerFor (ofTag tag)).run state).events →
        ("entity_type", .text name) ∈ event.fields → ofTag name = ofTag tag) ∧
    ∀ (η : Type) (registry : Registry η) (before after : String),
      Text.isAllBlank before = true → Text.isAllBlank after = true →
        registry.get? (ofTag (before ++ (ofTag tag).tag ++ after)) = registry.get? (ofTag tag) ∧
        ∀ handle : η, (registry.register (ofTag tag) handle).get?
          (ofTag (before ++ (ofTag tag).tag ++ after)) = some handle := by
  have again : ofTag (ofTag tag).tag = ofTag tag := ofTag_ofTag tag
  refine ⟨again, fun before after blankBefore blankAfter => ofTag_append blankBefore blankAfter tag,
    fun σ readers name failed => ?_, fun σ writers state event name told named => ?_,
    fun η registry before after blankBefore blankAfter => ?_⟩
  · rw [Registry.eq_tag_of_reported failed, again]
  · rw [Registry.eq_tag_of_logged told named, again]
  · have found : ofTag (before ++ (ofTag tag).tag ++ after) = ofTag tag :=
      (ofTag_append blankBefore blankAfter _).trans again
    refine ⟨by rw [found], fun handle => ?_⟩
    rw [found, Registry.get?_register, if_pos rfl]

/-- A tag of capital letters, one of them dotted and the last a sigma, between blanks. -/
theorem ofTag_closed_of_capitals :
    let tag := "\u0130\u039F\u03A3"
    let small := "i\u0307\u03BF\u03C2"
    let unknown : Event := ⟨.warn, "Unknown search type", [("entity_type", .text small)]⟩
    let readers : Registry (IndexReader Unit) := .empty
    let writers : Registry (IndexWriter Unit) := .empty
    ofTag tag = ⟨small⟩ ∧ ofTag small = ofTag tag ∧
      Text.isAllBlank "\u2003" = true ∧ Text.isAllBlank " \n" = true ∧
      ofTag ("\u2003" ++ tag ++ " \n") = ofTag tag ∧
      (readers.readerFor (ofTag tag) = .error (.unknownType small) ∧ ofTag small = ofTag tag) ∧
      (unknown ∈ ((writers.writerFor (ofTag tag)).run ()).events ∧ ofTag small = ofTag tag) ∧
      ((Registry.empty.register (ofTag tag) 7).get? (ofTag ("\u2003" ++ small ++ " \n")) =
        some 7) := by
  intro tag small unknown readers writers
  have named : ofTag tag = ⟨small⟩ := by decide +kernel
  have blankBefore : Text.isAllBlank "\u2003" = true := by decide +kernel
  have blankAfter : Text.isAllBlank " \n" = true := by decide +kernel
  have failed : readers.readerFor (ofTag tag) = .error (.unknownType small) := by
    rw [named]
    rfl
  have told : unknown ∈ ((writers.writerFor (ofTag tag)).run ()).events := by
    rw [named]
    exact List.mem_singleton_self unknown
  have shown : (ofTag tag).tag = small := by rw [named]
  obtain ⟨again, framed, reported, logged, registered⟩ := ofTag_closed tag
  have found := (registered Nat .empty "\u2003" " \n" blankBefore blankAfter).2 7
  rw [shown] at again found
  exact ⟨named, again, blankBefore, blankAfter, framed _ _ blankBefore blankAfter,
    ⟨failed, reported Unit readers small failed⟩,
    ⟨told, logged Unit writers () unknown small told (List.mem_singleton_self _)⟩, found⟩

end EntityType

end CatalogSync
