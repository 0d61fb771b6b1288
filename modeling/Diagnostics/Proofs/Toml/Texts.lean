import Diagnostics.Proofs.Keyed
import Diagnostics.Proofs.Text.Shown
import Diagnostics.Toml.Document

/-!
# Texts in documents

The texts that a value holds are its text, or those of its items or of its entries; the keys of a
table are among them. A document without an escape character has none in any of them, and neither
has any value that is looked up in it.
-/

namespace Diagnostics.Toml

namespace Value

mutual

/-- The texts and the keys in a value, however deep they lie. -/
def texts : Value → List String
  | .text value => [value]
  | .array items => textsOfItems items
  | .table entries => textsOfEntries entries
  | _ => []

def textsOfItems : List Value → List String
  | [] => []
  | value :: rest => texts value ++ textsOfItems rest

def textsOfEntries : List (String × Value) → List String
  | [] => []
  | (key, value) :: rest => key :: (texts value ++ textsOfEntries rest)

end

/-- No text and no key in the value holds an escape character. -/
def EscapeFree (value : Value) : Prop :=
  ∀ text ∈ value.texts, escapeChar ∉ text.toList

instance (value : Value) : Decidable value.EscapeFree :=
  inferInstanceAs (Decidable (∀ text ∈ value.texts, escapeChar ∉ text.toList))

variable {items : List Value} {entries : List (String × Value)} {value : Value}

theorem texts_subset_textsOfItems (hitem : value ∈ items) : value.texts ⊆ textsOfItems items := by
  induction items with
  | nil => cases hitem
  | cons first rest ih =>
      obtain rfl | hrest := List.mem_cons.mp hitem
      · exact List.subset_append_left _ _
      · exact List.Subset.trans (ih hrest) (List.subset_append_right _ _)

theorem texts_subset_textsOfEntries {key : String} (hentry : (key, value) ∈ entries) :
    key :: value.texts ⊆ textsOfEntries entries := by
  induction entries with
  | nil => cases hentry
  | cons first rest ih =>
      obtain rfl | hrest := List.mem_cons.mp hentry
      · exact List.cons_subset_cons _ (List.subset_append_left _ _)
      · exact List.Subset.trans (ih hrest)
          (List.subset_cons_of_subset _ (List.subset_append_right _ _))

namespace EscapeFree

theorem text {text : String} : EscapeFree (.text text) ↔ escapeChar ∉ text.toList :=
  List.forall_mem_singleton

theorem item (hfree : EscapeFree (.array items)) (hitem : value ∈ items) : value.EscapeFree :=
  fun text htext => hfree text (texts_subset_textsOfItems hitem htext)

theorem entry (hfree : EscapeFree (.table entries)) {key : String}
    (hentry : (key, value) ∈ entries) : escapeChar ∉ key.toList ∧ value.EscapeFree := by
  have hsubset := texts_subset_textsOfEntries hentry
  constructor
  · exact hfree key (hsubset List.mem_cons_self)
  · exact fun text htext => hfree text (hsubset (List.mem_cons_of_mem _ htext))

theorem find? (hfree : EscapeFree (.table entries)) {key : String}
    (hfind : Keyed.find? entries key = some value) : value.EscapeFree :=
  (hfree.entry (Keyed.mem_of_find? hfind)).2

end EscapeFree

end Value

theorem ReadError.escapeFree_failure {message : ε → String} {invalid : ε}
    (hinvalid : escapeChar ∉ (message invalid).toList) (cause : ReadError) :
    (cause.failure invalid).EscapeFree message := by
  cases cause with
  | encoding => trivial
  | refused cause =>
      cases cause with
      | invalid => exact hinvalid
      | tooDeep | overlong => trivial

variable [Platform]

/-- If the bytes are a document, no text and no key in it holds an escape character. -/
def EscapeFree (bytes : List UInt8) : Prop :=
  ∀ table ∈ (read bytes).toOption, Value.EscapeFree (.table table)

instance (bytes : List UInt8) : Decidable (EscapeFree bytes) :=
  inferInstanceAs (Decidable (∀ table ∈ (read bytes).toOption, Value.EscapeFree (.table table)))

theorem EscapeFree.table {bytes : List UInt8} (hfree : EscapeFree bytes) {table : Table}
    (hread : read bytes = .ok table) : Value.EscapeFree (.table table) := by
  apply hfree
  rw [hread]
  rfl

end Diagnostics.Toml
