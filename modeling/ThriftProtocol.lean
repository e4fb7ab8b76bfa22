import ThriftProtocol.Binary.RoundTrip
import ThriftProtocol.Compact.RoundTrip
import ThriftProtocol.Compact.Scopes
import ThriftProtocol.Compact.Sessions
import ThriftProtocol.EncoderFailures
import ThriftProtocol.Framing
import ThriftProtocol.Guards
import ThriftProtocol.MinSize
import ThriftProtocol.Streaming
