import FrontEnd.Token

/-!
# Refusals

The reasons for which a document refuses to open, to show its tokens or to take a token into its
chain.
-/

namespace FrontEnd

/-- Why a document refuses what it is asked. -/
inductive ChainError where
  | alreadyOpened
  /-- The text cannot be covered by one span. -/
  | textTooLarge (cause : SpanError)
  | notOpened
  | noTokens
  /-- The token linked onto, of kind `kind`, has a successor. -/
  | alreadyLinked (kind : TokenKind)
  /-- The token was minted by `found` and not by the document of the chain. -/
  | foreignToken (expected found : DocumentId)
  | outOfBounds (span : Span) (len : UInt32)
  /-- The token begins before the one linked onto has ended. -/
  | outOfOrder (previousEnd start : UInt32)
  /-- There is no document with this number. -/
  | unknownDocument (id : DocumentId)
  deriving DecidableEq

def ChainError.message : ChainError → String
  | alreadyOpened => "document is already opened"
  | textTooLarge cause => "document text is too large: " ++ cause.message
  | notOpened => "document has not been opened"
  | noTokens => "document has no tokens after its sentinel"
  | alreadyLinked kind => kind.inspect ++ " token is already linked to a successor"
  | foreignToken expected found =>
    "token belongs to document " ++ found.toText ++ ", not document " ++ expected.toText
  | outOfBounds span len =>
    "token span " ++ span.toText ++ " falls outside document of length " ++ toString len.toNat
  | outOfOrder previousEnd start =>
    "token starting at " ++ toString start.toNat ++ " cannot follow a token ending at " ++
      toString previousEnd.toNat
  | unknownDocument id => "there is no document " ++ id.toText

end FrontEnd
