import Bilingual.Text.Lines
import Bilingual.Uri.Basic

/-!
Documents that are open, at most one for each URI.
-/

namespace Bilingual

/-- One state of an open document. -/
structure Document where
  uri : Uri
  version : Int32
  content : LinedText

namespace Document

def ofText (uri : Uri) (version : Int32) (text : String) : Document :=
  ⟨uri, version, .ofText text⟩

def text (d : Document) : String := d.content.text

end Document

structure OpenDocuments where
  documents : List Document

namespace OpenDocuments

def empty : OpenDocuments := ⟨[]⟩

def find? (all : OpenDocuments) (uri : Uri) : Option Document :=
  all.documents.find? (·.uri = uri)

def erase (all : OpenDocuments) (uri : Uri) : OpenDocuments :=
  ⟨all.documents.filter (·.uri ≠ uri)⟩

/-- Opens a document or replaces the state of an open one. -/
def insert (all : OpenDocuments) (d : Document) : OpenDocuments :=
  ⟨d :: (all.erase d.uri).documents⟩

def size (all : OpenDocuments) : Nat := all.documents.length

def isEmpty (all : OpenDocuments) : Bool := all.documents.isEmpty

end OpenDocuments

end Bilingual
