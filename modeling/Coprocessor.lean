import Coprocessor.Main
import Coprocessor.Bus.Watched
import Coprocessor.Proofs.Bus.Memory
import Coprocessor.Proofs.Bus.Handshake
import Coprocessor.Proofs.Device.Failures
import Coprocessor.Proofs.Snapshot.Format
import Coprocessor.Proofs.Script.Printer
import Coprocessor.Proofs.Script.Waiting
import Coprocessor.Proofs.Device.Spaces
import Coprocessor.Proofs.Session.Splitting
import Coprocessor.Proofs.Device.Schedule
import Coprocessor.Proofs.Device.Telling
import Coprocessor.Proofs.Script.Position
import Coprocessor.Proofs.Wire.Carrying
import Coprocessor.Proofs.Device.Dispatch
import Coprocessor.Proofs.Device.Polling
import Coprocessor.Proofs.Script.Notations
import Coprocessor.Proofs.Session.StrictExit
import Coprocessor.Proofs.Script.Layout
import Coprocessor.Proofs.Script.Segments
import Coprocessor.Proofs.Device.Commuting
import Coprocessor.Proofs.Script.Barrier
import Coprocessor.Proofs.Script.LetterCase
import Coprocessor.Proofs.Script.Fractions
import Coprocessor.Proofs.Script.ByteOrder
import Coprocessor.Proofs.Snapshot.Dump
import Coprocessor.Proofs.Guarded.Lines
import Coprocessor.Proofs.Session.Subjects
