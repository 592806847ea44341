import Basis.Protocol.Answer
import Basis.Proofs.Except
import Basis.Proofs.Deque
import Basis.Proofs.Deque.Removal
import Basis.Proofs.SetOrder
import Basis.Proofs.Alike
import Basis.Proofs.Marshal.Words
import Basis.Proofs.Marshal.RoundTrip
import Basis.Proofs.TypeTable.Collect
import Basis.Proofs.TypeTable.Layout
import Basis.Proofs.TypeTable.Emit
import Basis.Proofs.TypeTable.Decode
import Basis.Proofs.TypeTable.Sound
import Basis.Proofs.TypeTable.Bytes
import Basis.Proofs.Calendar.Duration
import Basis.Proofs.Calendar.Ordinal
import Basis.Proofs.Calendar.Arithmetic
import Basis.Proofs.Calendar.Invariant
import Basis.Marshal.Chunked
import Basis.Proofs.Marshal.Readers
import Basis.Proofs.Marshal.Backwards
import Basis.Proofs.Calendar.Run
import Basis.Proofs.Calendar.Compare
import Basis.Proofs.Calendar.Bijection
import Basis.Proofs.Calendar.LocalTime
import Basis.Proofs.Calendar.IsoWeek
import Basis.Proofs.Calendar.Normalize
import Basis.Proofs.Calendar.Directives
import Basis.Proofs.Digest.Standard
import Basis.Proofs.Digest.Context
import Basis.Proofs.Digest.Copies
import Basis.Proofs.Digest.FailedUpdate
import Basis.Proofs.Foreign.Requests
import Basis.Proofs.Foreign.Enums
import Basis.Proofs.Foreign.Parameters
import Basis.Proofs.Foreign.Specifiers
import Basis.Proofs.Foreign.Literals
import Basis.Proofs.Foreign.Conversions
import Basis.Proofs.Foreign.Initializers
import Basis.Proofs.Preprocess.Conditionals
import Basis.Proofs.Preprocess.Expansion
