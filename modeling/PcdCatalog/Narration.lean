import PcdCatalog.Log
import PcdCatalog.Text.Quoted
import PcdCatalog.Workspace

/-!
# What is told about a build

Building an index is worth some notes: how many documents there are, what each
of them declares, which of them cannot be read, which symbols change hands,
and what has come out in the end. The notes follow the build document by
document, so a document that takes a symbol over is told right where it is
merged.
-/

namespace PcdCatalog

namespace Narration

/-- The topic of builds. -/
def workspaceTopic : String := "pcdindex::workspace"

/-- The topic of finding documents. -/
def sourceTopic : String := "pcdindex::document::fs"

/-- The topic of extraction. -/
def extractorTopic : String := "pcdindex::symbol::extractor"

/-- The topic of the index itself. -/
def indexTopic : String := "pcdindex::symbol::index"

/-- A symbol passes from one document to another. -/
def handedOver (h : Handover) : Note where
  level := .debug
  topic := indexTopic
  text := h.symbol ++ " redeclared: " ++ h.replacement.display ++ " replaces " ++ h.previous.display

/-- What is told about one document. -/
def document (x : Extractor) (s : Source) (i : Index) (doc : Path) : List Note :=
  match s.read doc with
  | .error e =>
    [⟨.warn, workspaceTopic, "Skipping declarations of " ++ doc.text ++ ": " ++ e.message doc⟩]
  | .ok text =>
    let found := x.extract doc text
    ⟨.trace, extractorTopic,
      "Extracted " ++ toString found.size ++ " declarations from " ++ doc.text⟩
      :: (i.handoversOf doc found).map handedOver

/-- What is told about documents that are merged one after the other. -/
def documents (x : Extractor) (s : Source) : Index → List Path → List Note
  | _, [] => []
  | i, doc :: docs =>
    document x s i doc ++ documents x s (i.mergedOrFailed doc (x.look s doc)).1 docs

/-- **What is told about a build** below a root. -/
def build (w : Workspace) (s : Source) (root : Path) : List Note :=
  let (built, counts) := w.build s
  let n := toString s.documents.length
  [⟨.debug, sourceTopic, "Found " ++ n ++ " declaration files under " ++ Text.quoted root.text⟩,
    ⟨.info, workspaceTopic, "Indexing " ++ n ++ " declaration files"⟩]
    ++ documents w.extractor s w.index s.documents
    ++ [⟨.info, workspaceTopic, "Indexed " ++ toString built.index.size ++ " symbols from "
      ++ toString counts.documents ++ " files (" ++ toString counts.errors ++ " unreadable)"⟩]

end Narration

end PcdCatalog
