import FrontEnd.Log
import FrontEnd.Token

/-!
# What documents report

The events that happen while documents are opened, tokens minted and texts scanned, and the log
entry of each.
-/

namespace FrontEnd

/-- Something that happened to a document. -/
inductive DocumentEvent where
  | opened (document : DocumentId) (extent : Span)
  | openRejected (document : DocumentId)
  | minted (document : DocumentId) (kind : TokenKind) (span : Span)
  /-- The text at `span` is `actual`, or there is none, and the shared image is another. -/
  | imageMismatch (document : DocumentId) (label : String) (span : Span) (expected : String)
      (actual : Option String)
  | scanned (document : DocumentId) (tokens : Nat)
  deriving DecidableEq

def DocumentEvent.entry : DocumentEvent → LogEntry
  | opened document extent =>
    ⟨.debug, "opened token document",
      [("document", .text document.toText), ("extent", .text extent.toText)]⟩
  | openRejected document =>
    ⟨.debug, "rejected second open", [("document", .text document.toText)]⟩
  | minted document kind span =>
    ⟨.trace, "created token",
      [("document", .text document.toText), ("kind", .number kind.raw.toInt),
        ("span", .text span.toText)]⟩
  | imageMismatch document label span expected actual =>
    ⟨.warn, "shared token image does not match source text",
      [("document", .text document.toText), ("kind", .text label), ("span", .text span.toText),
        ("expected", .text expected), ("actual", .text (actual.getD "<out of bounds>"))]⟩
  | scanned document tokens =>
    ⟨.debug, "scanned document",
      [("document", .text document.toText), ("tokens", .number tokens)]⟩

end FrontEnd
