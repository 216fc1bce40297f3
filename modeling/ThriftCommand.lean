import ThriftCommand.Main
import ThriftCommand.Token.Decoding
import ThriftCommand.Proofs.Lockstep
import ThriftCommand.Proofs.ReadBack
import ThriftCommand.Proofs.Rendering
import ThriftCommand.Proofs.Operands
import ThriftCommand.Proofs.Refusal
import ThriftCommand.Proofs.PluginName
import ThriftCommand.Proofs.Resolution
import ThriftCommand.Proofs.TargetWarnings
import ThriftCommand.Proofs.Verbosity
import ThriftCommand.Proofs.Messages
import ThriftCommand.Proofs.Provenance
import ThriftCommand.Proofs.LogLines
import ThriftCommand.Proofs.Outcomes
import ThriftCommand.Proofs.KeyAlphabet
import ThriftCommand.Proofs.Entries
import ThriftCommand.Proofs.OptionOrder
import ThriftCommand.Proofs.Bytes
import ThriftCommand.Proofs.SecondPass
import ThriftCommand.Proofs.FirstOperand
import ThriftCommand.Proofs.ErrorLines
import ThriftCommand.Proofs.LoggedLines
import ThriftCommand.Proofs.Unquoting
import ThriftCommand.Proofs.HelpColumns
