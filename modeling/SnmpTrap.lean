import SnmpTrap.Agent
import SnmpTrap.Assembly
import SnmpTrap.Ber.Contents
import SnmpTrap.Ber.Encoder
import SnmpTrap.Ber.Locate
import SnmpTrap.Ber.ObjectIdentifier
import SnmpTrap.Ber.Reader
import SnmpTrap.Ber.Size
import SnmpTrap.Ber.Tlv
import SnmpTrap.BitString
import SnmpTrap.BuildErrors
import SnmpTrap.Cipher.Cfb
import SnmpTrap.Cli
import SnmpTrap.DumpRun
import SnmpTrap.DumpText
import SnmpTrap.EndToEnd
import SnmpTrap.Engine
import SnmpTrap.EngineClock
import SnmpTrap.EngineIdentity
import SnmpTrap.Error
import SnmpTrap.ExitCode
import SnmpTrap.Expansion
import SnmpTrap.Expressible
import SnmpTrap.Grammar
import SnmpTrap.HexAgree
import SnmpTrap.HexDump
import SnmpTrap.HexGrammar
import SnmpTrap.HostMac
import SnmpTrap.HostUptime
import SnmpTrap.Identity
import SnmpTrap.Keys
import SnmpTrap.MacUptime
import SnmpTrap.Net.OnesComplement
import SnmpTrap.Net.Retry
import SnmpTrap.Net.TimeWindow
import SnmpTrap.NoPanic
import SnmpTrap.Numeral.Binary64
import SnmpTrap.Numeral.Bits
import SnmpTrap.Numeral.Digits
import SnmpTrap.Numeral.Nearest
import SnmpTrap.Numeral.Octets
import SnmpTrap.OidGrammar
import SnmpTrap.OidTrip
import SnmpTrap.Payload
import SnmpTrap.Pdu
import SnmpTrap.Positional
import SnmpTrap.Process
import SnmpTrap.Report
import SnmpTrap.Reserved
import SnmpTrap.Run
import SnmpTrap.Rust.Alike
import SnmpTrap.Rust.Decimal
import SnmpTrap.Rust.Fails
import SnmpTrap.Rust.Ipv4Text
import SnmpTrap.Rust.Net
import SnmpTrap.Rust.Numerals
import SnmpTrap.Rust.Outcome
import SnmpTrap.Rust.ParseFloat
import SnmpTrap.Rust.Resolve
import SnmpTrap.Rust.Slice
import SnmpTrap.Rust.SortBy
import SnmpTrap.Rust.Text
import SnmpTrap.Rust.Traced
import SnmpTrap.Rust.Utf8
import SnmpTrap.Rust.Write
import SnmpTrap.SameTrap
import SnmpTrap.Secrecy
import SnmpTrap.Secrets
import SnmpTrap.SnmpTypes
import SnmpTrap.Timeliness
import SnmpTrap.Transport.Checksum
import SnmpTrap.Transport.Raw
import SnmpTrap.Transport.Receiver
import SnmpTrap.Transport.Retries
import SnmpTrap.Transport.Socket
import SnmpTrap.Transport.Transmission
import SnmpTrap.Transport.Unprivileged
import SnmpTrap.Usm
import SnmpTrap.UsmReceiver
import SnmpTrap.V1Positional
import SnmpTrap.V1Trip
import SnmpTrap.V2cTrip
import SnmpTrap.V3
import SnmpTrap.V3Receiver
import SnmpTrap.V3Total
import SnmpTrap.V3Trip
import SnmpTrap.Validation
import SnmpTrap.Varbind
import SnmpTrap.VarbindBounds
import SnmpTrap.VarbindsAgree
import SnmpTrap.World
