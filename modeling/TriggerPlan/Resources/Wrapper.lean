/-!
# Files of the build wrapper

The start scripts of the build wrapper, for POSIX shells and for Windows, and the properties that
tell it which distribution to use.
-/

namespace TriggerPlan.Resources

/-- The start script for POSIX shells. -/
def posixScript : List String :=
  ["#!/bin/sh",
    "#",
    "# Gradle start up script for POSIX systems.",
    "#",
    "",
    "# Resolve links: $0 may be a link",
    "app_path=$0",
    "while",
    "    APP_HOME=$\x7bapp_path%\"$\x7bapp_path##*/\x7d\"\x7d",
    "    [ -h \"$app_path\" ]",
    "do",
    "    ls=$( ls -ld \"$app_path\" )",
    "    link=$\x7bls#*' -> '\x7d",
    "    case $link in",
    "      /*)   app_path=$link ;;",
    "      *)    app_path=$APP_HOME$link ;;",
    "    esac",
    "done",
    "",
    "APP_HOME=$( cd -P \"$\x7bAPP_HOME:-./\x7d\" > /dev/null && printf '%s\\n' \"$PWD\" ) || exit",
    "",
    "DEFAULT_JVM_OPTS='\"-Xmx64m\" \"-Xms64m\"'",
    "MAX_FD=maximum",
    "",
    "warn () \x7b",
    "    echo \"$*\"",
    "\x7d >&2",
    "",
    "die () \x7b",
    "    echo",
    "    echo \"$*\"",
    "    echo",
    "    exit 1",
    "\x7d >&2",
    "",
    "CLASSPATH=$APP_HOME/gradle/wrapper/gradle-wrapper.jar",
    "",
    "# Determine the Java command to use to start the JVM.",
    "if [ -n \"$JAVA_HOME\" ] ; then",
    "    JAVACMD=$JAVA_HOME/bin/java",
    "    if [ ! -x \"$JAVACMD\" ] ; then",
    "        die \"ERROR: JAVA_HOME is set to an invalid directory: $JAVA_HOME",
    "",
    "Please set the JAVA_HOME variable in your environment to match the",
    "location of your Java installation.\"",
    "    fi",
    "else",
    "    JAVACMD=java",
    "    if ! command -v java >/dev/null 2>&1",
    "    then",
    "        die \"ERROR: JAVA_HOME is not set and no 'java' command could be found in your PATH.",
    "",
    "Please set the JAVA_HOME variable in your environment to match the",
    "location of your Java installation.\"",
    "    fi",
    "fi",
    "",
    "# Increase the maximum file descriptors if we can.",
    "case $MAX_FD in",
    "  max*)",
    "    MAX_FD=$( ulimit -H -n ) ||",
    "        warn \"Could not query maximum file descriptor limit\"",
    "esac",
    "case $MAX_FD in",
    "  '' | soft) :;;",
    "  *)",
    "    ulimit -n \"$MAX_FD\" ||",
    "        warn \"Could not set maximum file descriptor limit to $MAX_FD\"",
    "esac",
    "",
    "# Collect all arguments for the java command.",
    "set -- \\",
    "        \"-Dorg.gradle.appname=$\x7b0##*/\x7d\" \\",
    "        -classpath \"$CLASSPATH\" \\",
    "        org.gradle.wrapper.GradleWrapperMain \\",
    "        \"$@\"",
    "",
    "eval \"set -- $(",
    "        printf '%s\\n' \"$DEFAULT_JVM_OPTS $JAVA_OPTS $GRADLE_OPTS\" |",
    "        xargs -n1 |",
    "        sed ' s~[^-[:alnum:]+,./:=@_]~\\\\&~g; ' |",
    "        tr '\\n' ' '",
    "    )\" '\"$@\"'",
    "",
    "exec \"$JAVACMD\" \"$@\""]

/-- The start script for Windows. -/
def windowsScript : List String :=
  ["@rem",
    "@rem Gradle startup script for Windows",
    "@rem",
    "",
    "@if \"%DEBUG%\"==\"\" @echo off",
    "if \"%OS%\"==\"Windows_NT\" setlocal",
    "",
    "set DIRNAME=%~dp0",
    "if \"%DIRNAME%\"==\"\" set DIRNAME=.",
    "set APP_BASE_NAME=%~n0",
    "set APP_HOME=%DIRNAME%",
    "",
    "set DEFAULT_JVM_OPTS=\"-Xmx64m\" \"-Xms64m\"",
    "",
    "if defined JAVA_HOME goto findJavaFromJavaHome",
    "",
    "set JAVA_EXE=java.exe",
    "%JAVA_EXE% -version >NUL 2>&1",
    "if %ERRORLEVEL% equ 0 goto execute",
    "",
    "echo ERROR: JAVA_HOME is not set and no java command could be found in your PATH. 1>&2",
    "goto fail",
    "",
    ":findJavaFromJavaHome",
    "set JAVA_HOME=%JAVA_HOME:\"=%",
    "set JAVA_EXE=%JAVA_HOME%/bin/java.exe",
    "",
    "if exist \"%JAVA_EXE%\" goto execute",
    "",
    "echo ERROR: JAVA_HOME is set to an invalid directory: %JAVA_HOME% 1>&2",
    "goto fail",
    "",
    ":execute",
    "set CLASSPATH=%APP_HOME%\\gradle\\wrapper\\gradle-wrapper.jar",
    "",
    "\"%JAVA_EXE%\" %DEFAULT_JVM_OPTS% %JAVA_OPTS% %GRADLE_OPTS% \"-Dorg.gradle.appname=%APP_BASE_NAME%\" -classpath \"%CLASSPATH%\" org.gradle.wrapper.GradleWrapperMain %*",
    "",
    ":end",
    "if %ERRORLEVEL% equ 0 goto mainEnd",
    "",
    ":fail",
    "set EXIT_CODE=%ERRORLEVEL%",
    "if %EXIT_CODE% equ 0 set EXIT_CODE=1",
    "exit /b %EXIT_CODE%",
    "",
    ":mainEnd",
    "if \"%OS%\"==\"Windows_NT\" endlocal"]

/-- The properties of the wrapper. -/
def wrapperProperties : List String :=
  ["distributionBase=GRADLE_USER_HOME",
    "distributionPath=wrapper/dists",
    "distributionUrl=https\\://services.gradle.org/distributions/gradle-8.10.2-bin.zip",
    "networkTimeout=10000",
    "validateDistributionUrl=true",
    "zipStoreBase=GRADLE_USER_HOME",
    "zipStorePath=wrapper/dists"]

end TriggerPlan.Resources
