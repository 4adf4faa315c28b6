import KotlinBuilders.Host.Loading
import KotlinBuilders.Proofs.PrintedJson
import KotlinBuilders.Proofs.Readings

/-!
# Which texts load

A dump is read from the first value of a text.  The text loads exactly when it
begins with a document that the schema of dumps reads
(`Dump.load_eq_ok_iff_begins`).  What comes after this document is not looked
at, so any text may come after it (`Dump.load_append`), although the whole text
is then no document unless only white space comes after it
(`WrittenAs.allSpace_of_append`).
-/

namespace KotlinBuilders

open Json (Node tokens AllSpace Spelled)

namespace Json

/-- A text without tokens is white space. -/
theorem allSpace_of_tokens_eq_nil {text : List UInt8}
    (hnone : tokens text = []) : AllSpace text := by
  fun_induction tokens text with
  | case1 => exact allSpace_nil
  | case2 b rest hspace ih => exact List.forall_mem_cons.2 ⟨hspace, ih hnone⟩
  | case3 => cases hnone

namespace Node

/-- A document with something after it is a document only if that is white
space. -/
theorem WrittenAs.allSpace_of_append {node other : Node}
    {document rest : List UInt8} (hwritten : node.WrittenAs document)
    (hends : node.EndsBefore rest)
    (hother : other.WrittenAs (document ++ rest)) :
    AllSpace rest := by
  obtain rfl : node = other :=
    (hwritten.ofBytes_append hends).symm.trans hother.ofBytes_eq
  have hall := hother.2.tokens_append fun token _ => token.endsBefore_nil
  have hfirst :=
    hwritten.2.tokens_append (endsBefore_of_mem_getLast?_spelling hends)
  rw [List.append_nil, tokens_nil, hfirst] at hall
  exact allSpace_of_tokens_eq_nil (List.append_cancel_left hall)

end Node

end Json

namespace Dump

/-- A text is loaded when the first value in it is read as a dump. -/
theorem load_eq_ok_iff {text : List UInt8} {dump : Dump} :
    load text = .ok dump ↔ ∃ value, dumpSchema.read (Node.ofBytes text)
      = .ok value ∧ ofValue value = dump := by
  unfold load
  cases dumpSchema.read (Node.ofBytes text) <;> simp

/-- What a dump is read from is closed by a bracket, so nothing that comes after
it can go on with it. -/
theorem endsBefore_of_read {node : Node} {value : dumpSchema.Value}
    (hread : dumpSchema.read node = .ok value) (rest : List UInt8) :
    node.EndsBefore rest := by
  obtain ⟨elements, stop, rfl⟩ | ⟨members, stop, rfl⟩ :=
    Json.exists_of_read_record_eq_ok hread <;> trivial

/-- What loads begins with a document. -/
theorem exists_writtenAs_of_load {text : List UInt8} {dump : Dump}
    (hload : load text = .ok dump) :
    ∃ (node : Node) (document rest : List UInt8), text = document ++ rest
      ∧ node.WrittenAs document
      ∧ ∃ value, dumpSchema.read node = .ok value ∧ ofValue value = dump := by
  obtain ⟨value, hread, hvalue⟩ := load_eq_ok_iff.1 hload
  obtain ⟨document, rest, htext, hwritten⟩ :=
    Node.exists_writtenAs (Json.Schema.not_isBroken_of_read hread)
  exact ⟨Node.ofBytes text, document, rest, htext, hwritten, value,
    hread, hvalue⟩

/-- A document that is read loads, whatever comes after it. -/
theorem load_append_of_writtenAs {node : Node} {document : List UInt8}
    {value : dumpSchema.Value} (hwritten : node.WrittenAs document)
    (hread : dumpSchema.read node = .ok value) (rest : List UInt8) :
    load (document ++ rest) = .ok (ofValue value) := by
  refine load_eq_ok_iff.2 ⟨value, ?_, rfl⟩
  rw [hwritten.ofBytes_append (endsBefore_of_read hread rest)]
  exact hread

/-- **A text loads exactly when it begins with a document that is read as a
dump**, whatever comes after this document. -/
theorem load_eq_ok_iff_begins (text : List UInt8) (dump : Dump) :
    load text = .ok dump ↔
      ∃ (node : Node) (document rest : List UInt8),
        text = document ++ rest ∧ node.WrittenAs document
        ∧ ∃ value, dumpSchema.read node = .ok value ∧ ofValue value = dump := by
  constructor
  · exact exists_writtenAs_of_load
  · rintro ⟨node, document, rest, rfl, hwritten, value, hread, rfl⟩
    exact load_append_of_writtenAs hwritten hread rest

/-- **What comes after a dump is lost**: a text that loads gives the same dump
with any other text behind it. -/
theorem load_append {text : List UInt8} {dump : Dump}
    (hload : load text = .ok dump) (more : List UInt8) :
    load (text ++ more) = .ok dump := by
  obtain ⟨node, document, rest, rfl, hwritten, value, hread, rfl⟩ :=
    exists_writtenAs_of_load hload
  rw [List.append_assoc]
  exact load_append_of_writtenAs hwritten hread (rest ++ more)

/-- Two dumps in one text: the second one is lost. -/
theorem not_forall_load_document :
    ¬∀ (text : List UInt8) (dump : Dump), load text = .ok dump →
      ∃ node : Node, node.WrittenAs text := by
  intro hdocument
  have hfirst := Node.writtenAs_compact (.object [])
  have hread : dumpSchema.read (.object [] .closed) = .ok ([], [], ()) := rfl
  obtain ⟨node, hnode⟩ := hdocument _ _ (load_append_of_writtenAs hfirst hread
    " \x7b\"declarations\": [\x7b\"name\": \"Lost\"\x7d]\x7d".toUTF8.data.toList)
  have hspace := hfirst.allSpace_of_append trivial hnode
  exact absurd (hspace 123 (by decide)) (by decide)

end Dump

end KotlinBuilders
