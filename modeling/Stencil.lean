import Stencil.Serial.Encode
import Stencil.Session
import Stencil.Proofs.Assembly.Cut
import Stencil.Proofs.Directive.Name
import Stencil.Proofs.Directive.Printed
import Stencil.Proofs.Directive.Refusal
import Stencil.Proofs.Load.Acceptance
import Stencil.Proofs.Load.Continuation
import Stencil.Proofs.Load.FirstFault
import Stencil.Proofs.Load.Indented
import Stencil.Proofs.Load.Insertion
import Stencil.Proofs.Load.LineEnding
import Stencil.Proofs.Load.Margin
import Stencil.Proofs.Load.Places
import Stencil.Proofs.Load.Regions
import Stencil.Proofs.Load.Render
import Stencil.Proofs.Load.Stacked
import Stencil.Proofs.Markers.Region
import Stencil.Proofs.Pattern.Rounds
import Stencil.Proofs.Token.Splice
