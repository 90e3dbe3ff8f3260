import Propositional.Datum
import Propositional.Folded.Meaning
import Propositional.Formula.Outline
import Propositional.Page.Run
import Propositional.Reader.Grammar
import Propositional.Reader.Session
import Propositional.Proofs.Canonical
import Propositional.Proofs.Folded.Rendering
import Propositional.Proofs.Formula.Collection
import Propositional.Proofs.Formula.Context
import Propositional.Proofs.Karnaugh.Agreement
import Propositional.Proofs.Karnaugh.Axes
import Propositional.Proofs.Karnaugh.ClosedForm
import Propositional.Proofs.Karnaugh.Filling
import Propositional.Proofs.Page.Modes
import Propositional.Proofs.Page.Typesetting
import Propositional.Proofs.Page.Views
import Propositional.Proofs.Reader.Bounds
import Propositional.Proofs.Reader.DeadEnd
import Propositional.Proofs.Reader.Session
import Propositional.Proofs.Reader.Shift
import Propositional.Proofs.Reader.Stopping
import Propositional.Proofs.Reader.Words
import Propositional.Proofs.Table.Alphabet
import Propositional.Proofs.Table.Composition
import Propositional.Proofs.Table.Listing
